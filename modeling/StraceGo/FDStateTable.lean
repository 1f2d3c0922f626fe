import StraceGo.FDStateKeys

/-!
# The descriptor store as a table of processes

A structured table holds the same four records for pairs of a process and a
slot, as functions: an event writes slots of one process, and the operations
on whole processes are stated entry by entry. Whatever run it takes, the
store keyed by texts is the image of the table.
-/

namespace StraceGo.FDStateTable

open EventEnvelope FiniteMaps EventTaskLifecycle GoText KeyedMaps FDStateEvents FDState FDStateKeys

/-- Everything recorded for one slot of one process. -/
@[ext] structure FDEntry where
  /-- Path. -/
  path : Option String := none
  /-- File offset. -/
  offset : Option Int64 := none
  /-- Snapshot. -/
  observation : Option FDStateObservation := none
  /-- Close-on-exec bit. -/
  cloexec : Option Bool := none

/-- Entry that takes what a second one has where the first has nothing. -/
def FDEntry.or (a b : FDEntry) : FDEntry :=
  ⟨a.path.or b.path,a.offset.or b.offset,a.observation.or b.observation,a.cloexec.or b.cloexec⟩

/-- Structured store. -/
structure DescriptorTable where
  /-- Whether history was lost. -/
  tainted : Bool := false
  /-- Paths. -/
  paths : FDKey → Option String := fun _ => none
  /-- File offsets. -/
  offsets : FDKey → Option Int64 := fun _ => none
  /-- Snapshots. -/
  fdStates : FDKey → Option FDStateObservation := fun _ => none
  /-- Close-on-exec bits. -/
  fdCloexec : FDKey → Option Bool := fun _ => none

/-- Run one step of an event on the records of a process. -/
def writeProcess {V : Type} (pid : ℤ) (f : FDKey → Option V) (writer : Reader V → Writes V) :
    FDKey → Option V :=
  writeAll (Prod.mk pid) f (writer fun slot => f (pid,slot))

/-- Records without those that pass a test. -/
def dropWhere {V : Type} (q : FDKey → V → Bool) (f : FDKey → Option V) : FDKey → Option V :=
  fun key => (f key).filter fun v => !q key v

/-- Records with those of a parent process copied to its child. -/
def inheritFrom {V : Type} (parentPID childPID : ℤ) (f : FDKey → Option V) : FDKey → Option V :=
  fun key => if key.1=childPID then (f (parentPID,key.2)).or (f key) else f key

/-- Whether a key names a descriptor of a process in a range. -/
def inRange (pid : ℤ) (first last : UInt32) (key : FDKey) : Bool :=
  decide (key.1=pid) && ((slotNumber key.2).any fun fd =>
    decide (first.toNat ≤ fd) && decide (fd ≤ last.toNat))

namespace DescriptorTable

variable (tables : SyscallTables) (t : DescriptorTable)

/-- Everything recorded for a key. -/
def entry (key : FDKey) : FDEntry := ⟨t.paths key,t.offsets key,t.fdStates key,t.fdCloexec key⟩

/-- Whether anything is recorded for a key. -/
def known (key : FDKey) : Bool :=
  (t.paths key).isSome || (t.offsets key).isSome || (t.fdStates key).isSome ||
    (t.fdCloexec key).isSome

/-- What an event other than a close of a range records. -/
def recordFDState (update : FDStateUpdate) : DescriptorTable :=
  {t with
    paths := (pathWriters update).foldl (writeProcess update.targetPID) t.paths
    fdStates := writeAll (Prod.mk update.targetPID) t.fdStates
      (mapWrites update.order.states update.resolved.states ++
        updateFDStateObservationFromSource update.source update.name)
    offsets := writeAll (Prod.mk update.targetPID) t.offsets
      (updateFDStateOffsetsFromSource update.source update.name)
    fdCloexec := writeAll (Prod.mk update.targetPID) t.fdCloexec
      (updateFDCloexecFromSource update.source update.name update.targetPID)}

/-- Mark the known descriptors of a range close-on-exec. -/
def markRange (pid : ℤ) (first last : UInt32) : DescriptorTable :=
  {t with fdCloexec := fun key =>
    if inRange pid first last key=true ∧ t.known key=true then some true else t.fdCloexec key}

/-- Forget the descriptors of a range. -/
def removeRange (pid : ℤ) (first last : UInt32) : DescriptorTable :=
  {t with
    paths := dropWhere (fun key _ => inRange pid first last key) t.paths
    offsets := dropWhere (fun key _ => inRange pid first last key) t.offsets
    fdStates := dropWhere (fun key _ => inRange pid first last key) t.fdStates
    fdCloexec := dropWhere (fun key _ => inRange pid first last key) t.fdCloexec}

/-- Close or mark a range of descriptors. -/
def updateCloseRangeState (view : SyscallEventView) (pid : ℤ) : DescriptorTable :=
  if FDStateStore.closesRange view pid=false then t
  else if view.args[2].toUInt32 &&& 4≠0 then
    t.markRange pid view.args[0].toUInt32 view.args[1].toUInt32
  else t.removeRange pid view.args[0].toUInt32 view.args[1].toUInt32

/-- Record what an event says about descriptors. -/
def applyFDState (update : FDStateUpdate) : DescriptorTable :=
  if t.tainted=true ∨
      shouldApplyFDStateEvent tables update.source.view update.name
        update.source.payloadSections=false then t
  else if update.name=.closeRange then
    (t.recordFDState update).updateCloseRangeState update.source.view update.targetPID
  else t.recordFDState update

/-- Record the offset an event leaves. -/
def applyFDOffsets (view : SyscallEventView) (name : SyscallName) (pid : ℤ) : DescriptorTable :=
  if t.tainted=true then t
  else
    let states : Reader FDStateObservation := fun slot => t.fdStates (pid,slot)
    {t with offsets := writeProcess pid t.offsets (updateOffsetsFromView name view states)}

/-- Forget a closed descriptor. -/
def cleanupClosedFD (view : SyscallEventView) (name : SyscallName) (pid : ℤ) : DescriptorTable :=
  if shouldCleanupClosedFDEvent tables view name=false then t
  else
    let fd := fdArg view.args[0]
    {t with
      paths := writeAll (Prod.mk pid) t.paths [forget fd]
      offsets := writeAll (Prod.mk pid) t.offsets [forget fd]
      fdStates := writeAll (Prod.mk pid) t.fdStates [forget fd]
      fdCloexec := if name=.close then writeAll (Prod.mk pid) t.fdCloexec [forget fd]
        else t.fdCloexec}

/-- Copy the records of a process to its child. -/
def inheritProcessState (parentPID childPID : ℤ) : DescriptorTable :=
  if parentPID ≤ 0 ∨ childPID ≤ 0 ∨ parentPID=childPID then t
  else {t with
    paths := inheritFrom parentPID childPID t.paths
    offsets := inheritFrom parentPID childPID t.offsets
    fdStates := inheritFrom parentPID childPID t.fdStates
    fdCloexec := inheritFrom parentPID childPID t.fdCloexec}

/-- Forget the records of a process. -/
def cleanupProcess (pid : ℤ) : DescriptorTable :=
  {t with
    paths := dropWhere (fun key _ => decide (key.1=pid)) t.paths
    offsets := dropWhere (fun key _ => decide (key.1=pid)) t.offsets
    fdStates := dropWhere (fun key _ => decide (key.1=pid)) t.fdStates
    fdCloexec := dropWhere (fun key _ => decide (key.1=pid)) t.fdCloexec}

/-- Whether an exec of a process closes a slot. -/
def closedByExec (pid : ℤ) (key : FDKey) : Bool :=
  decide (key.1=pid) && !(decide (key.2=.cwd) || t.fdCloexec key==some false)

/-- Forget the descriptors of a process that are not known to survive an exec. -/
def closeOnExecProcess (pid : ℤ) : DescriptorTable :=
  if pid ≤ 0 then t
  else {t with
    paths := dropWhere (fun key _ => t.closedByExec pid key) t.paths
    offsets := dropWhere (fun key _ => t.closedByExec pid key) t.offsets
    fdStates := dropWhere (fun key _ => t.closedByExec pid key) t.fdStates
    fdCloexec := dropWhere (fun key enabled => decide (key.1=pid) && enabled) t.fdCloexec}

/-- Drop all history after a loss. -/
def taintHistory : DescriptorTable := if t.tainted then t else {tainted := true}

/-- Perform an operation. -/
def perform (op : FDStateOp) : DescriptorTable :=
  match op with
  | .applyFDState update => t.applyFDState tables update
  | .applyFDOffsets view name pid => t.applyFDOffsets view name pid
  | .cleanupClosedFD view name pid => t.cleanupClosedFD tables view name pid
  | .inheritProcessState parentPID childPID => t.inheritProcessState parentPID childPID
  | .cleanupProcess pid => t.cleanupProcess pid
  | .closeOnExecProcess pid => t.closeOnExecProcess pid
  | .taintHistory => t.taintHistory

/-- Perform operations in order. -/
def run (ops : List FDStateOp) : DescriptorTable := ops.foldl (perform tables) t

/-- Table with the merged seeds. -/
def ofSeeds (seeds : List (ℤ×String)) : DescriptorTable where
  paths := seeds.foldl (fun paths seed =>
    writeAll (Prod.mk seed.1) paths (newCwdFDStateSeed seed.1 seed.2)) fun _ => none

end DescriptorTable

/-- The store is the image of the table. -/
structure Represents (st : FDStateStore) (t : DescriptorTable) : Prop where
  /-- The same mark. -/
  tainted : st.tainted=t.tainted
  /-- The same paths. -/
  paths : Mirrors keyText st.paths t.paths
  /-- The same offsets. -/
  offsets : Mirrors keyText st.offsets t.offsets
  /-- The same snapshots. -/
  fdStates : Mirrors keyText st.fdStates t.fdStates
  /-- The same close-on-exec bits. -/
  fdCloexec : Mirrors keyText st.fdCloexec t.fdCloexec

/-- The loops visit every key of their maps. -/
structure LoopsCover (orders : LoopOrders) (st : FDStateStore) : Prop where
  /-- Every path is visited. -/
  paths : Covers orders.paths st.paths
  /-- Every offset is visited. -/
  offsets : Covers orders.offsets st.offsets
  /-- Every snapshot is visited. -/
  fdStates : Covers orders.fdStates st.fdStates
  /-- Every close-on-exec bit is visited. -/
  fdCloexec : Covers orders.fdCloexec st.fdCloexec

/-- The loops of an operation, if it has any, visit the maps as they are when the loops start. -/
def Covered (st : FDStateStore) (op : FDStateOp) (orders : LoopOrders) : Prop :=
  match op with
  | .applyFDState update => update.name=.closeRange → LoopsCover orders (st.recordFDState update)
  | .inheritProcessState _ _ => LoopsCover orders st
  | .cleanupProcess _ => LoopsCover orders st
  | .closeOnExecProcess _ => LoopsCover orders st
  | _ => True

/-- The loops of every operation of a run visit their maps. -/
def CoveredRun (tables : SyscallTables) : FDStateStore → List (FDStateOp×LoopOrders) → Prop
  | _,[] => True
  | st,op::ops => Covered st op.1 op.2 ∧ CoveredRun tables (st.perform tables op.1 op.2) ops

section Steps

variable {tables : SyscallTables} {st : FDStateStore} {t : DescriptorTable}

/-- Writes at slots of a process keep the image. -/
theorem mirrors_applyWrites {V : Type} {m : GoMap String V} {f : FDKey → Option V}
    (h : Mirrors keyText m f) (pid : ℤ) (writes : Writes V) :
    Mirrors keyText (applyWrites (slotKey pid) m writes) (writeAll (Prod.mk pid) f writes) := by
  have hkey : ∀ slot, keyText (Prod.mk pid slot)=slotKey pid slot := fun _ => rfl
  exact h.applyWrites keyText_injective hkey writes

/-- Steps of an event keep the image. -/
theorem mirrors_runWriter {V : Type} {m : GoMap String V} {f : FDKey → Option V}
    (h : Mirrors keyText m f) (pid : ℤ) (writer : Reader V → Writes V) :
    Mirrors keyText (runWriter pid m writer) (writeProcess pid f writer) := by
  have hread : (fun slot => m.lookup (slotKey pid slot))=fun slot => f (pid,slot) :=
    funext fun slot => h.lookup (pid,slot)
  unfold runWriter writeProcess
  rw [hread]
  exact mirrors_applyWrites h pid _

theorem mirrors_pathWriters {m : GoMap String String} {f : FDKey → Option String}
    (h : Mirrors keyText m f) (pid : ℤ) (writers : List (Reader String → Writes String)) :
    Mirrors keyText (writers.foldl (runWriter pid) m) (writers.foldl (writeProcess pid) f) := by
  induction writers generalizing m f with
  | nil => exact h
  | cons writer writers ih => exact ih (mirrors_runWriter h pid writer)

/-- What an event records keeps the image. -/
theorem Represents.recordFDState (h : Represents st t) (update : FDStateUpdate) :
    Represents (st.recordFDState update) (t.recordFDState update) where
  tainted := h.tainted
  paths := mirrors_pathWriters h.paths update.targetPID (pathWriters update)
  offsets := mirrors_applyWrites h.offsets update.targetPID _
  fdStates := mirrors_applyWrites h.fdStates update.targetPID _
  fdCloexec := mirrors_applyWrites h.fdCloexec update.targetPID _

/-- The range test on a text agrees with the pair. -/
theorem closeRangeKeyInRange_keyText (pid : ℤ) (first last : UInt32) (key : FDKey) :
    closeRangeKeyInRange pid first last (keyText key)=inRange pid first last key := by
  obtain ⟨owner,slot⟩ := key
  unfold closeRangeKeyInRange inRange
  rw [hasPidPrefix_keyText]
  by_cases howner : owner=pid
  · rw [←howner,trimPrefix_keyText,parseDecimal_slotText]
  · simp [howner]

/-- Forgetting a range keeps the image. -/
theorem Represents.removeRange (h : Represents st t) {orders : LoopOrders}
    (hcover : LoopsCover orders st) (pid : ℤ) (first last : UInt32) :
    Represents (st.removeCloseRangeState orders pid first last) (t.removeRange pid first last) where
  tainted := h.tainted
  paths := h.paths.deleteWhere hcover.paths
    fun key _ _ => closeRangeKeyInRange_keyText pid first last key
  offsets := h.offsets.deleteWhere hcover.offsets
    fun key _ _ => closeRangeKeyInRange_keyText pid first last key
  fdStates := h.fdStates.deleteWhere hcover.fdStates
    fun key _ _ => closeRangeKeyInRange_keyText pid first last key
  fdCloexec := h.fdCloexec.deleteWhere hcover.fdCloexec
    fun key _ _ => closeRangeKeyInRange_keyText pid first last key

/-- Marking a range keeps the image. -/
theorem Represents.markRange (h : Represents st t) {orders : LoopOrders}
    (hcover : LoopsCover orders st) (pid : ℤ) (first last : UInt32) :
    Represents (st.markCloseRangeCloexec orders pid first last) (t.markRange pid first last) where
  tainted := h.tainted
  paths := h.paths
  offsets := h.offsets
  fdStates := h.fdStates
  fdCloexec := by
    have hrange := closeRangeKeyInRange_keyText pid first last
    have hpaths := h.fdCloexec.markWhere h.paths hcover.paths hrange true
    have hoffsets := hpaths.markWhere h.offsets hcover.offsets hrange true
    have hstates := hoffsets.markWhere h.fdStates hcover.fdStates hrange true
    have hsettles :=
      (((hcover.fdCloexec.settles (closeRangeKeyInRange pid first last) true).markWhere
      (visited orders.paths st.paths)).markWhere (visited orders.offsets st.offsets)).markWhere
      (visited orders.fdStates st.fdStates)
    have hmarked := hstates.markVisited hsettles hrange
    refine ⟨fun key => (hmarked.lookup key).trans ?_,hmarked.range⟩
    simp only [DescriptorTable.markRange,DescriptorTable.known]
    by_cases hin : inRange pid first last key=true
    · by_cases hp : t.paths key=none <;> by_cases ho : t.offsets key=none <;>
        by_cases hs : t.fdStates key=none <;> by_cases hc : t.fdCloexec key=none <;>
          simp [hin,hp,ho,hs,hc,Option.isSome_iff_ne_none]
    · simp [hin]

/-- Closing or marking a range keeps the image. -/
theorem Represents.updateCloseRangeState (h : Represents st t) {orders : LoopOrders}
    (hcover : LoopsCover orders st) (view : SyscallEventView) (pid : ℤ) :
    Represents (st.updateCloseRangeState orders view pid) (t.updateCloseRangeState view pid) := by
  unfold FDStateStore.updateCloseRangeState DescriptorTable.updateCloseRangeState
  split_ifs
  · exact h
  · exact h.markRange hcover pid _ _
  · exact h.removeRange hcover pid _ _

/-- Copying to a child keeps the image. -/
theorem mirrors_inherit {V : Type} {m : GoMap String V} {f : FDKey → Option V}
    (h : Mirrors keyText m f) {order : List String} (hcover : Covers order m)
    {parentPID childPID : ℤ} (hne : parentPID≠childPID) :
    Mirrors keyText (FDStateStore.inheritEntries order parentPID childPID m)
      (inheritFrom parentPID childPID f) := by
  have hstarts : ∀ i : FDKey, hasPidPrefix parentPID (keyText i)=true → i=(parentPID,i.2) := by
    rintro ⟨pid,slot⟩ hp
    rw [hasPidPrefix_keyText,decide_eq_true_iff] at hp
    rw [hp]
  have hsource : ∀ i key : FDKey,
      (if key.1=childPID then some (parentPID,key.2) else none)=some i ↔
        hasPidPrefix parentPID (keyText i)=true ∧
          inheritedKey parentPID childPID (keyText i)=keyText key := by
    intro i key
    constructor
    · intro hkey
      split_ifs at hkey with hchild
      obtain rfl := Option.some.inj hkey
      rw [hasPidPrefix_keyText,inheritedKey_keyText,←hchild]
      simp
    · rintro ⟨hp,hkey⟩
      rw [hstarts i hp,inheritedKey_keyText] at hkey
      rw [←keyText_injective hkey,if_pos rfl,←hstarts i hp]
  have hout : ∀ i : FDKey, hasPidPrefix parentPID (keyText i)=true →
      hasPidPrefix parentPID (inheritedKey parentPID childPID (keyText i))=false := by
    intro i hp
    rw [hstarts i hp,inheritedKey_keyText,hasPidPrefix_keyText]
    simpa using hne.symm
  have htarget : ∀ i : FDKey, hasPidPrefix parentPID (keyText i)=true →
      ∃ key, inheritedKey parentPID childPID (keyText i)=keyText key := by
    intro i hp
    exact ⟨(childPID,i.2),by rw [hstarts i hp,inheritedKey_keyText]⟩
  have hcopy := h.copyWhere hcover hsource hout htarget
  refine ⟨fun key => (hcopy.lookup key).trans ?_,hcopy.range⟩
  unfold inheritFrom
  split_ifs <;> simp

/-- Every operation keeps the image, whatever the orders of its loops. -/
theorem Represents.perform (h : Represents st t) (op : FDStateOp) {orders : LoopOrders}
    (hcovered : Covered st op orders) :
    Represents (st.perform tables op orders) (t.perform tables op) := by
  cases op with
  | applyFDState update =>
    simp only [FDStateStore.perform,DescriptorTable.perform,FDStateStore.applyFDState,
      DescriptorTable.applyFDState,h.tainted]
    split_ifs with _ hname
    · exact h
    · exact (h.recordFDState update).updateCloseRangeState (hcovered hname) _ _
    · exact h.recordFDState update
  | applyFDOffsets view name pid =>
    have hstates : (fun slot => st.fdStates.lookup (slotKey pid slot))=
        fun slot => t.fdStates (pid,slot) := funext fun slot => h.fdStates.lookup (pid,slot)
    simp only [FDStateStore.perform,DescriptorTable.perform,FDStateStore.applyFDOffsets,
      DescriptorTable.applyFDOffsets,h.tainted,hstates]
    split_ifs
    · exact h
    · exact ⟨rfl,h.paths,mirrors_runWriter h.offsets pid _,h.fdStates,h.fdCloexec⟩
  | cleanupClosedFD view name pid =>
    simp only [FDStateStore.perform,DescriptorTable.perform,FDStateStore.cleanupClosedFD,
      DescriptorTable.cleanupClosedFD]
    split_ifs
    · exact h
    · exact ⟨h.tainted,mirrors_applyWrites h.paths pid _,
        mirrors_applyWrites h.offsets pid _,
        mirrors_applyWrites h.fdStates pid _,
        mirrors_applyWrites h.fdCloexec pid _⟩
    · exact ⟨h.tainted,mirrors_applyWrites h.paths pid _,
        mirrors_applyWrites h.offsets pid _,
        mirrors_applyWrites h.fdStates pid _,h.fdCloexec⟩
  | inheritProcessState parentPID childPID =>
    simp only [FDStateStore.perform,DescriptorTable.perform,FDStateStore.inheritProcessState,
      DescriptorTable.inheritProcessState]
    split_ifs with hguard
    · exact h
    · have hne : parentPID≠childPID := fun heq => hguard (Or.inr (Or.inr heq))
      exact ⟨h.tainted,mirrors_inherit h.paths hcovered.paths hne,
        mirrors_inherit h.offsets hcovered.offsets hne,
        mirrors_inherit h.fdStates hcovered.fdStates hne,
        mirrors_inherit h.fdCloexec hcovered.fdCloexec hne⟩
  | cleanupProcess pid =>
    have hstarts := fun key : FDKey => hasPidPrefix_keyText key.1 key.2 pid
    exact ⟨h.tainted,h.paths.deleteWhere hcovered.paths fun key _ _ => hstarts key,
      h.offsets.deleteWhere hcovered.offsets fun key _ _ => hstarts key,
      h.fdStates.deleteWhere hcovered.fdStates fun key _ _ => hstarts key,
      h.fdCloexec.deleteWhere hcovered.fdCloexec fun key _ _ => hstarts key⟩
  | closeOnExecProcess pid =>
    have hstarts := fun key : FDKey => hasPidPrefix_keyText key.1 key.2 pid
    have hdrops : ∀ key : FDKey, (hasPidPrefix pid (keyText key) &&
        !st.retainAfterExec (keyText key))=t.closedByExec pid key := by
      intro key
      unfold FDStateStore.retainAfterExec DescriptorTable.closedByExec
      rw [hstarts key,hasSuffix_keyText key.1 key.2,h.fdCloexec.lookup key]
    simp only [FDStateStore.perform,DescriptorTable.perform,FDStateStore.closeOnExecProcess,
      DescriptorTable.closeOnExecProcess]
    split_ifs
    · exact h
    · exact ⟨h.tainted,h.paths.deleteWhere hcovered.paths fun key _ _ => hdrops key,
        h.offsets.deleteWhere hcovered.offsets fun key _ _ => hdrops key,
        h.fdStates.deleteWhere hcovered.fdStates fun key _ _ => hdrops key,
        h.fdCloexec.deleteWhere hcovered.fdCloexec fun key enabled _ => by rw [hstarts key]⟩
  | taintHistory =>
    simp only [FDStateStore.perform,DescriptorTable.perform,FDStateStore.taintHistory,
      DescriptorTable.taintHistory,h.tainted]
    split_ifs
    · exact h
    · exact ⟨rfl,mirrors_empty,mirrors_empty,mirrors_empty,mirrors_empty⟩

end Steps

section Runs

variable {tables : SyscallTables} {st : FDStateStore} {t : DescriptorTable}

/-- Every run keeps the image. -/
theorem Represents.run (h : Represents st t) {ops : List (FDStateOp×LoopOrders)}
    (hcovered : CoveredRun tables st ops) :
    Represents (st.run tables ops) (t.run tables (ops.map Prod.fst)) := by
  induction ops generalizing st t with
  | nil => exact h
  | cons op ops ih => exact ih (h.perform op.1 hcovered.1) hcovered.2

/-- A table has one image. -/
theorem Represents.eq {other : FDStateStore} (h : Represents st t) (hother : Represents other t) :
    st=other := by
  apply FDStateStore.ext
  · rw [h.tainted,hother.tainted]
  · exact h.paths.eq hother.paths
  · exact h.offsets.eq hother.offsets
  · exact h.fdStates.eq hother.fdStates
  · exact h.fdCloexec.eq hother.fdCloexec

/-- A new store is the image of a new table. -/
theorem represents_newFDStateStoreFromSeed (seeds : List (ℤ×String)) :
    Represents (newFDStateStoreFromSeed seeds) (DescriptorTable.ofSeeds seeds) where
  tainted := rfl
  paths := by
    have hseeds : ∀ (m : GoMap String String) (f : FDKey → Option String), Mirrors keyText m f →
        Mirrors keyText
          (seeds.foldl (fun paths seed =>
            applyWrites (slotKey seed.1) paths (newCwdFDStateSeed seed.1 seed.2)) m)
          (seeds.foldl (fun paths seed =>
            writeAll (Prod.mk seed.1) paths (newCwdFDStateSeed seed.1 seed.2)) f) := by
      induction seeds with
      | nil => exact fun m f h => h
      | cons seed seeds ih =>
        exact fun m f h => ih _ _ (mirrors_applyWrites h seed.1 _)
    exact hseeds ∅ _ mirrors_empty
  offsets := mirrors_empty
  fdStates := mirrors_empty
  fdCloexec := mirrors_empty

end Runs

end StraceGo.FDStateTable

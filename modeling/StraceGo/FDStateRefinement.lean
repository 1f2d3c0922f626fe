import StraceGo.FDStateTable

/-!
# What the store keyed by texts does to processes

Entry by entry: inheriting copies the parent's entries to the child, cleaning
up removes a process, closing removes a descriptor and closing a range removes
the descriptors of the range, and everything else is left alone. The store of
the program is the image of the table after every run, so the same holds of
its texts. Inheriting and closing a range are no operations of process zero.
-/

namespace StraceGo.FDStateRefinement

open EventEnvelope FiniteMaps EventTaskLifecycle GoText KeyedMaps FDStateEvents FDState FDStateKeys
  FDStateTable

/-- Everything the store records for a key. -/
def storeEntry (st : FDStateStore) (key : FDKey) : FDEntry :=
  ⟨st.paths.lookup (keyText key),st.offsets.lookup (keyText key),
    st.fdStates.lookup (keyText key),st.fdCloexec.lookup (keyText key)⟩

/-- Whether an operation may change the records of a process. -/
def changesProcess (op : FDStateOp) (pid : ℤ) : Prop :=
  match op with
  | .applyFDState update => update.targetPID=pid
  | .applyFDOffsets _ _ statePID => statePID=pid
  | .cleanupClosedFD _ _ statePID => statePID=pid
  | .inheritProcessState _ childPID => childPID=pid
  | .cleanupProcess other => other=pid
  | .closeOnExecProcess other => other=pid
  | .taintHistory => True

section Tables

variable {tables : SyscallTables} {t : DescriptorTable} {key : FDKey}

/-- Inheriting copies exactly the parent's entries. -/
theorem entry_inheritProcessState {parentPID childPID : ℤ} (hparent : 0 < parentPID)
    (hchild : 0 < childPID) (hne : parentPID≠childPID) :
    (t.inheritProcessState parentPID childPID).entry key=
      if key.1=childPID then (t.entry (parentPID,key.2)).or (t.entry key) else t.entry key := by
  unfold DescriptorTable.inheritProcessState
  rw [if_neg (by omega)]
  by_cases hkey : key.1=childPID <;> simp [DescriptorTable.entry,inheritFrom,FDEntry.or,hkey]

/-- Reading after a test that does not depend on the record. -/
theorem dropWhere_const {V : Type} (q : FDKey → Bool) (f : FDKey → Option V) :
    dropWhere (fun key _ => q key) f key=if q key then none else f key := by
  unfold dropWhere
  cases hq : q key <;> cases f key <;> simp [Option.filter,hq]

/-- A record that fails the test stays. -/
theorem dropWhere_of_false {V : Type} (q : FDKey → V → Bool) (f : FDKey → Option V)
    (h : ∀ v, q key v=false) : dropWhere q f key=f key := by
  unfold dropWhere
  cases f key <;> simp [Option.filter,h]

/-- Cleaning up removes exactly the entries of a process. -/
theorem entry_cleanupProcess (pid : ℤ) :
    (t.cleanupProcess pid).entry key=if key.1=pid then {} else t.entry key := by
  simp only [DescriptorTable.cleanupProcess,DescriptorTable.entry,dropWhere_const]
  by_cases hkey : key.1=pid <;> simp [hkey]

/-- Closing removes exactly the closed descriptor. -/
theorem entry_cleanupClosedFD {view : SyscallEventView} {pid : ℤ}
    (h : shouldCleanupClosedFDEvent tables view .close=true) :
    (t.cleanupClosedFD tables view .close pid).entry key=
      if key=(pid,.fd (fdArg view.args[0])) then {} else t.entry key := by
  unfold DescriptorTable.cleanupClosedFD
  rw [if_neg (by simp [h])]
  by_cases hkey : key=(pid,.fd (fdArg view.args[0])) <;>
    simp [DescriptorTable.entry,writeAll,forget,hkey]

/-- Closing a range removes exactly the descriptors of the range. -/
theorem entry_updateCloseRangeState {view : SyscallEventView} {pid : ℤ}
    (h : FDStateStore.closesRange view pid=true) (hflags : view.args[2].toUInt32 &&& 4=0) :
    (t.updateCloseRangeState view pid).entry key=
      if inRange pid view.args[0].toUInt32 view.args[1].toUInt32 key then {} else t.entry key := by
  unfold DescriptorTable.updateCloseRangeState
  rw [if_neg (by simp [h]),if_neg (by simp [hflags])]
  simp only [DescriptorTable.removeRange,DescriptorTable.entry,dropWhere_const]
  split_ifs <;> rfl

/-- Steps of an event leave the other processes. -/
theorem writeProcess_of_ne {V : Type} {pid : ℤ} (h : pid≠key.1) (f : FDKey → Option V)
    (writer : Reader V → Writes V) : writeProcess pid f writer key=f key :=
  writeAll_of_ne fun _ _ hw => h (congrArg Prod.fst hw)

theorem pathWriters_of_ne {pid : ℤ} (h : pid≠key.1) (f : FDKey → Option String)
    (writers : List (Reader String → Writes String)) :
    writers.foldl (writeProcess pid) f key=f key := by
  induction writers generalizing f with
  | nil => rfl
  | cons writer writers ih => rw [List.foldl_cons,ih,writeProcess_of_ne h]

theorem entry_recordFDState_of_ne {update : FDStateUpdate} (h : update.targetPID≠key.1) :
    (t.recordFDState update).entry key=t.entry key := by
  have hne : ∀ slot, (update.targetPID,slot)≠key := fun _ hw => h (congrArg Prod.fst hw)
  apply FDEntry.ext
  · exact pathWriters_of_ne h _ _
  · exact writeAll_of_ne fun w _ => hne w.address
  · exact writeAll_of_ne fun w _ => hne w.address
  · exact writeAll_of_ne fun w _ => hne w.address

theorem entry_updateCloseRangeState_of_ne {view : SyscallEventView} {pid : ℤ} (h : pid≠key.1) :
    (t.updateCloseRangeState view pid).entry key=t.entry key := by
  have hrange : ∀ first last, inRange pid first last key=false := by
    intro first last
    simp [inRange,h.symm]
  unfold DescriptorTable.updateCloseRangeState
  split_ifs
  · rfl
  · simp [DescriptorTable.entry,DescriptorTable.markRange,hrange]
  · simp [DescriptorTable.entry,DescriptorTable.removeRange,dropWhere_const,hrange]

/-- An operation leaves the entries of every process it does not address. -/
theorem entry_perform_of_ne {op : FDStateOp} (h : ¬changesProcess op key.1) :
    (t.perform tables op).entry key=t.entry key := by
  cases op with
  | applyFDState update =>
    simp only [DescriptorTable.perform,DescriptorTable.applyFDState]
    split_ifs
    · rfl
    · rw [entry_updateCloseRangeState_of_ne h,entry_recordFDState_of_ne h]
    · exact entry_recordFDState_of_ne h
  | applyFDOffsets view name pid =>
    simp only [DescriptorTable.perform,DescriptorTable.applyFDOffsets]
    split_ifs
    · rfl
    · simp only [DescriptorTable.entry,writeProcess_of_ne h]
  | cleanupClosedFD view name pid =>
    have hne : ∀ slot, (pid,slot)≠key := fun _ hw => h (congrArg Prod.fst hw)
    simp only [DescriptorTable.perform,DescriptorTable.cleanupClosedFD]
    split_ifs <;>
      simp [DescriptorTable.entry,writeAll,forget,(hne _).symm]
  | inheritProcessState parentPID childPID =>
    simp only [DescriptorTable.perform,DescriptorTable.inheritProcessState]
    split_ifs
    · rfl
    · have hkey : key.1≠childPID := fun hkey => h hkey.symm
      simp [DescriptorTable.entry,inheritFrom,hkey]
  | cleanupProcess pid =>
    have hkey : key.1≠pid := fun hkey => h hkey.symm
    change (t.cleanupProcess pid).entry key=_
    rw [entry_cleanupProcess,if_neg hkey]
  | closeOnExecProcess pid =>
    have hkey : key.1≠pid := fun hkey => h hkey.symm
    have hclosed : t.closedByExec pid key=false := by simp [DescriptorTable.closedByExec,hkey]
    simp only [DescriptorTable.perform,DescriptorTable.closeOnExecProcess]
    split_ifs
    · rfl
    · have hcloexec : dropWhere (fun key enabled => decide (key.1=pid) && enabled) t.fdCloexec key=
          t.fdCloexec key := dropWhere_of_false _ _ (by simp [hkey])
      simp only [DescriptorTable.entry,dropWhere_const,hclosed,hcloexec]
      simp
  | taintHistory => exact absurd trivial h

end Tables

section Stores

variable {st : FDStateStore} {t : DescriptorTable}

/-- The image holds the entries of the table. -/
theorem storeEntry_of_represents (h : Represents st t) : storeEntry st=t.entry := by
  funext key
  simp only [storeEntry,DescriptorTable.entry,h.paths.lookup,h.offsets.lookup,h.fdStates.lookup,
    h.fdCloexec.lookup]

/-- Whatever an operation does to the entries of the table it does to those of its image. -/
theorem storeEntry_perform (h : Represents st t) (tables : SyscallTables) (op : FDStateOp)
    (orders : LoopOrders) (hcovered : Covered st op orders) :
    storeEntry (st.perform tables op orders)=(t.perform tables op).entry :=
  storeEntry_of_represents (h.perform op hcovered)

end Stores

/-- The store keyed by texts refines the structured table. After every run, in whatever order the
loops visit the maps, it is the image of the table after the same run. From there inheriting copies
exactly the entries of the parent to the child, for two different processes with positive numbers;
cleaning up removes exactly the entries of a process; closing removes exactly the closed descriptor;
closing a range of a process with a positive number removes exactly the descriptors of the range,
after what the event itself carries is recorded; and no operation changes an entry of a process it
does not address. -/
theorem string_store_refines_table (tables : SyscallTables) (seeds : List (ℤ×String))
    (ops : List (FDStateOp×LoopOrders))
    (hcovered : CoveredRun tables (newFDStateStoreFromSeed seeds) ops) (st : FDStateStore)
    (hst : st=(newFDStateStoreFromSeed seeds).run tables ops) :
    Represents st ((DescriptorTable.ofSeeds seeds).run tables (ops.map Prod.fst)) ∧
    (∀ orders parentPID childPID, LoopsCover orders st → 0 < parentPID → 0 < childPID →
      parentPID≠childPID → ∀ key, storeEntry (st.inheritProcessState orders parentPID childPID) key=
        if key.1=childPID then (storeEntry st (parentPID,key.2)).or (storeEntry st key)
        else storeEntry st key) ∧
    (∀ orders pid, LoopsCover orders st → ∀ key,
      storeEntry (st.cleanupProcess orders pid) key=
        if key.1=pid then {} else storeEntry st key) ∧
    (∀ view pid, shouldCleanupClosedFDEvent tables view .close=true → ∀ key,
      storeEntry (st.cleanupClosedFD tables view .close pid) key=
        if key=(pid,.fd (fdArg view.args[0])) then {} else storeEntry st key) ∧
    (∀ orders update, update.name=.closeRange → st.tainted=false →
      LoopsCover orders (st.recordFDState update) →
      shouldApplyFDStateEvent tables update.source.view update.name
        update.source.payloadSections=true →
      FDStateStore.closesRange update.source.view update.targetPID=true →
      update.source.view.args[2].toUInt32 &&& 4=0 → ∀ key,
      storeEntry (st.applyFDState tables update orders) key=
        if inRange update.targetPID update.source.view.args[0].toUInt32
            update.source.view.args[1].toUInt32 key then {}
        else storeEntry (st.recordFDState update) key) ∧
    (∀ op orders, Covered st op orders → ∀ key, ¬changesProcess op key.1 →
      storeEntry (st.perform tables op orders) key=storeEntry st key) := by
  subst hst
  have h := (represents_newFDStateStoreFromSeed seeds).run hcovered
  have hentry := storeEntry_of_represents h
  refine ⟨h,?_,?_,?_,?_,?_⟩
  · intro orders parentPID childPID hcover hparent hchild hne key
    have hperform := storeEntry_perform h tables (.inheritProcessState parentPID childPID) orders
      hcover
    rw [hentry]
    exact (congrFun hperform key).trans (entry_inheritProcessState hparent hchild hne)
  · intro orders pid hcover key
    have hperform := storeEntry_perform h tables (.cleanupProcess pid) orders hcover
    rw [hentry]
    exact (congrFun hperform key).trans (entry_cleanupProcess pid)
  · intro view pid hclose key
    have hperform := storeEntry_perform h tables (.cleanupClosedFD view .close pid) {} trivial
    rw [hentry]
    exact (congrFun hperform key).trans (entry_cleanupClosedFD hclose)
  · intro orders update hname htainted hcover happly hcloses hflags key
    have hperform := storeEntry_perform h tables (.applyFDState update) orders fun _ => hcover
    have hrecord := storeEntry_of_represents (h.recordFDState update)
    rw [hrecord]
    have hstep : ((DescriptorTable.ofSeeds seeds).run tables (ops.map Prod.fst)).applyFDState tables
        update=(((DescriptorTable.ofSeeds seeds).run tables (ops.map Prod.fst)).recordFDState
          update).updateCloseRangeState update.source.view update.targetPID := by
      unfold DescriptorTable.applyFDState
      rw [if_neg (by simp [←h.tainted,htainted,happly]),if_pos hname]
    refine (congrFun hperform key).trans ?_
    change (DescriptorTable.applyFDState tables _ update).entry key=_
    rw [hstep]
    exact entry_updateCloseRangeState hcloses hflags
  · intro op orders hcover key hchanges
    rw [storeEntry_perform h tables op orders hcover,hentry]
    exact entry_perform_of_ne hchanges

/-- Two processes whose numbers share a prefix, one of them cleaned up. -/
theorem string_store_refines_table_sample :
    ∃ orders,
      storeEntry ((newFDStateStoreFromSeed [(1,"/a"),(12,"/b")]).cleanupProcess orders 1) (12,.cwd)=
        {path := some "/b"} ∧
      storeEntry ((newFDStateStoreFromSeed [(1,"/a"),(12,"/b")]).cleanupProcess orders 1) (1,.cwd)=
        {} := by
  let tables : SyscallTables := ⟨fun _ => "",fun _ => false,fun _ => false⟩
  obtain ⟨order,hcovers⟩ := exists_covers (newFDStateStoreFromSeed [(1,"/a"),(12,"/b")]).paths
  have hloops : LoopsCover {paths := order} (newFDStateStoreFromSeed [(1,"/a"),(12,"/b")]) := by
    refine ⟨hcovers,?_,?_,?_⟩ <;> exact fun k hk => absurd (Finmap.lookup_empty k) hk
  have hrefines := string_store_refines_table tables [(1,"/a"),(12,"/b")] [] trivial _ rfl
  have hcleanup := hrefines.2.2.1 {paths := order} 1 hloops
  refine ⟨{paths := order},?_,?_⟩
  · refine (hcleanup (12,.cwd)).trans ?_
    rw [if_neg (by decide)]
    exact storeEntry_of_represents hrefines.1 ▸ rfl
  · exact (hcleanup (1,.cwd)).trans (if_pos rfl)

/-- An event that opens descriptor three of process zero. -/
def openedByZero : FDStateUpdate where
  source := {
    view := ({eventType := .exit, sysID := 2, ret := 3} : TraceEventEnvelope).syscallView
    payloadSections := []}
  name := .«open»
  pathText := "/x"
  targetPID := 0

/-- Process zero has entries that its children do not inherit. -/
theorem inherit_from_zero_copies_nothing :
    ¬∀ (tables : SyscallTables) (seeds : List (ℤ×String)) (ops : List (FDStateOp×LoopOrders))
      (orders : LoopOrders) (parentPID childPID : ℤ) (slot : FDSlot),
      CoveredRun tables (newFDStateStoreFromSeed seeds) ops →
      LoopsCover orders ((newFDStateStoreFromSeed seeds).run tables ops) →
      0 ≤ parentPID → 0 ≤ childPID → parentPID≠childPID →
      storeEntry (((newFDStateStoreFromSeed seeds).run tables ops).inheritProcessState orders
          parentPID childPID) (childPID,slot)=
        (storeEntry ((newFDStateStoreFromSeed seeds).run tables ops) (parentPID,slot)).or
          (storeEntry ((newFDStateStoreFromSeed seeds).run tables ops) (childPID,slot)) := by
  intro h
  let tables : SyscallTables := ⟨fun _ => "open",fun _ => false,fun _ => false⟩
  let st := (newFDStateStoreFromSeed []).run tables [(.applyFDState openedByZero,{})]
  have hcovered : CoveredRun tables (newFDStateStoreFromSeed [])
      [(.applyFDState openedByZero,{})] := ⟨fun hname => absurd hname (by decide),trivial⟩
  obtain ⟨paths,hpaths⟩ := exists_covers st.paths
  obtain ⟨offsets,hoffsets⟩ := exists_covers st.offsets
  obtain ⟨fdStates,hfdStates⟩ := exists_covers st.fdStates
  obtain ⟨fdCloexec,hfdCloexec⟩ := exists_covers st.fdCloexec
  have hclaim := h tables [] [(.applyFDState openedByZero,{})]
    ⟨paths,offsets,fdStates,fdCloexec⟩ 0 5
    (.fd 3) hcovered ⟨hpaths,hoffsets,hfdStates,hfdCloexec⟩ (by decide) (by decide) (by decide)
  have hrepresents := (represents_newFDStateStoreFromSeed []).run hcovered
  have hsame : storeEntry st (5,.fd 3)=
      (storeEntry st (0,.fd 3)).or (storeEntry st (5,.fd 3)) := by
    rw [FDStateStore.inheritProcessState,if_pos (by decide)] at hclaim
    exact hclaim
  have hpath := congrArg FDEntry.path hsame
  rw [show storeEntry st=_ from storeEntry_of_represents hrepresents] at hpath
  exact absurd hpath (by decide)

end StraceGo.FDStateRefinement

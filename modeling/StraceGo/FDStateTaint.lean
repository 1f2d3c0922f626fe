import StraceGo.FDState

/-!
# Descriptor history after a loss

A loss empties the store and marks it. No operation fills it again: what an
event records is skipped, deletions find nothing, and the loops that copy or
mark entries have no entry to read.
-/

namespace StraceGo.FDStateTaint

open EventEnvelope FiniteMaps EventTaskLifecycle KeyedMaps FDStateEvents FDState

variable (tables : SyscallTables)

/-- Store without history. -/
def lostHistory : FDStateStore := {tainted := true}

/-- A marked store is empty. -/
def Cleared (st : FDStateStore) : Prop := st.tainted=true → st=lostHistory

section Steps

variable {st : FDStateStore}

/-- Closing a range does not mark the store. -/
theorem updateCloseRangeState_tainted (orders : LoopOrders) (view : SyscallEventView)
    (pid : ℤ) : (st.updateCloseRangeState orders view pid).tainted=st.tainted := by
  unfold FDStateStore.updateCloseRangeState
  split_ifs <;> rfl

/-- Only a loss marks the store. -/
theorem perform_tainted (op : FDStateOp) (orders : LoopOrders) :
    (st.perform tables op orders).tainted=true ↔ st.tainted=true ∨ op=.taintHistory := by
  cases op with
  | applyFDState update =>
    simp only [FDStateStore.perform,FDStateStore.applyFDState,reduceCtorEq,or_false]
    split_ifs
    · rfl
    · rw [updateCloseRangeState_tainted]
      rfl
    · rfl
  | applyFDOffsets view name pid =>
    simp only [FDStateStore.perform,FDStateStore.applyFDOffsets,reduceCtorEq,or_false]
    split_ifs <;> rfl
  | cleanupClosedFD view name pid =>
    simp only [FDStateStore.perform,FDStateStore.cleanupClosedFD,reduceCtorEq,or_false]
    split_ifs <;> rfl
  | inheritProcessState parentPID childPID =>
    simp only [FDStateStore.perform,FDStateStore.inheritProcessState,reduceCtorEq,or_false]
    split_ifs <;> rfl
  | cleanupProcess pid =>
    simp only [FDStateStore.perform,FDStateStore.cleanupProcess,reduceCtorEq,or_false]
  | closeOnExecProcess pid =>
    simp only [FDStateStore.perform,FDStateStore.closeOnExecProcess,reduceCtorEq,or_false]
    split_ifs <;> rfl
  | taintHistory =>
    simp only [FDStateStore.perform,FDStateStore.taintHistory,or_true,iff_true]
    split_ifs with htainted
    · exact htainted
    · rfl

/-- No operation fills a store without history. -/
theorem perform_lostHistory (op : FDStateOp) (orders : LoopOrders) :
    lostHistory.perform tables op orders=lostHistory := by
  cases op with
  | applyFDState update =>
    simp [FDStateStore.perform,FDStateStore.applyFDState,lostHistory]
  | applyFDOffsets view name pid =>
    simp [FDStateStore.perform,FDStateStore.applyFDOffsets,lostHistory]
  | cleanupClosedFD view name pid =>
    simp only [FDStateStore.perform,FDStateStore.cleanupClosedFD]
    split_ifs <;> simp [lostHistory,Write.apply,forget]
  | inheritProcessState parentPID childPID =>
    simp only [FDStateStore.perform,FDStateStore.inheritProcessState]
    split_ifs <;> simp [lostHistory,FDStateStore.inheritEntries,copyWhere_empty]
  | cleanupProcess pid =>
    simp [FDStateStore.perform,FDStateStore.cleanupProcess,lostHistory,deleteWhere_empty]
  | closeOnExecProcess pid =>
    simp only [FDStateStore.perform,FDStateStore.closeOnExecProcess]
    split_ifs <;> simp [lostHistory,deleteWhere_empty]
  | taintHistory => rfl

/-- Operations keep a marked store empty. -/
theorem Cleared.perform (h : Cleared st) (op : FDStateOp) (orders : LoopOrders) :
    Cleared (st.perform tables op orders) := by
  intro htainted
  by_cases hst : st.tainted=true
  · rw [h hst,perform_lostHistory]
  · rcases (perform_tainted tables op orders).mp htainted with hst' | rfl
    · exact absurd hst' hst
    · simp only [FDStateStore.perform,FDStateStore.taintHistory]
      rw [if_neg hst]
      rfl

end Steps

section Runs

variable {st : FDStateStore}

/-- Runs keep a marked store empty. -/
theorem Cleared.run (h : Cleared st) (ops : List (FDStateOp×LoopOrders)) :
    Cleared (st.run tables ops) := by
  unfold FDStateStore.run
  induction ops generalizing st with
  | nil => exact h
  | cons op ops ih =>
    rw [List.foldl_cons]
    exact ih (h.perform tables op.1 op.2)

/-- No run fills a store without history. -/
theorem run_lostHistory (ops : List (FDStateOp×LoopOrders)) :
    lostHistory.run tables ops=lostHistory := by
  unfold FDStateStore.run
  induction ops with
  | nil => rfl
  | cons op ops ih =>
    rw [List.foldl_cons,perform_lostHistory]
    exact ih

/-- A new store is not marked. -/
theorem cleared_newFDStateStoreFromMaps (paths : GoMap String String)
    (offsets : GoMap String Int64) :
    Cleared (newFDStateStoreFromMaps paths offsets) := by
  intro htainted
  simp [newFDStateStoreFromMaps] at htainted

/-- A loss empties any reachable store. -/
theorem Cleared.taintHistory (h : Cleared st) : st.taintHistory=lostHistory := by
  unfold FDStateStore.taintHistory
  split_ifs with htainted
  · exact h htainted
  · rfl

end Runs

/-- Nothing is known: every reader reports so, and the maps are empty. -/
structure HistoryUnknown (st : FDStateStore) : Prop where
  /-- No descriptor has a path. -/
  path : ∀ pid fd, st.path pid fd=none
  /-- No process has a working directory. -/
  cwd : ∀ pid, st.cwd pid=none
  /-- No descriptor has a snapshot. -/
  observation : ∀ pid fd, st.observation pid fd=none
  /-- No write has an offset. -/
  offset : ∀ view pid, st.bufferFileOffsetFromView view .write pid=none
  /-- There are no paths. -/
  paths : st.paths=∅
  /-- There are no offsets. -/
  offsets : st.offsets=∅
  /-- There are no snapshots. -/
  fdStates : st.fdStates=∅
  /-- There are no close-on-exec bits. -/
  fdCloexec : st.fdCloexec=∅

/-- A store without history knows nothing. -/
theorem historyUnknown_lostHistory : HistoryUnknown lostHistory where
  path _ _ := rfl
  cwd _ := rfl
  observation _ _ := rfl
  offset view pid := by
    unfold FDStateStore.bufferFileOffsetFromView
    split_ifs <;> simp_all [lostHistory]
  paths := rfl
  offsets := rfl
  fdStates := rfl
  fdCloexec := rfl

/-- Descriptor history never revives: after a loss, whatever operations came before and come
after it and in whatever order their loops visit the maps, nothing is known. -/
theorem history_never_revives (paths : GoMap String String) (offsets : GoMap String Int64)
    (before after : List (FDStateOp×LoopOrders)) :
    HistoryUnknown
      ((((newFDStateStoreFromMaps paths offsets).run tables before).taintHistory).run
        tables after) := by
  have hcleared := (cleared_newFDStateStoreFromMaps paths offsets).run tables before
  rw [hcleared.taintHistory,run_lostHistory]
  exact historyUnknown_lostHistory

end StraceGo.FDStateTaint

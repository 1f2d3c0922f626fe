import StraceGo.FDStateReuse

/-!
# Closing a range of descriptors

Closing a range against closing its descriptors one by one, and marking a
range close-on-exec against controlling its known descriptors one by one. The
range is read back from the texts of the keys, the single descriptors from the
arguments of an event. Both agree for every process with a positive number;
for the others the range is left alone while a close is not.
-/

namespace StraceGo.FDStateCloseRange

open EventEnvelope FiniteMaps EventTaskLifecycle GoText KeyedMaps FDStateEvents FDState FDStateKeys
  FDStateTable FDStateRefinement FDStateReuse

/-- Whether a descriptor number lies in a range. -/
def fdInRange (first last : UInt32) (fd : Int32) : Prop :=
  0 ≤ fd.toInt ∧ (first.toNat : ℤ) ≤ fd.toInt ∧ fd.toInt ≤ last.toNat

/-- A successful close. -/
def IsClose (tables : SyscallTables) (view : SyscallEventView) : Prop :=
  shouldCleanupClosedFDEvent tables view .close=true

/-- A successful control that marks a descriptor close-on-exec. -/
def IsSetCloexec (view : SyscallEventView) : Prop :=
  view.valid=true ∧ view.args[1].toUInt32=2 ∧ view.ret=0 ∧ view.args[2] &&& 1≠0

/-- What a successful range call says, whatever the process. -/
structure IsCloseRange (view : SyscallEventView) : Prop where
  /-- The record can be read. -/
  valid : view.valid=true
  /-- It is an exit. -/
  exit : view.eventType=.exit
  /-- The call succeeded. -/
  ret : view.ret=0
  /-- It was not suppressed. -/
  probe : view.probeRetEnter≠3
  /-- The range is not reversed. -/
  range : view.args[0].toUInt32 ≤ view.args[1].toUInt32
  /-- The flags are known ones. -/
  flags : view.args[2].toUInt32 &&& ~~~6=0

/-- Close descriptors one by one. -/
def closeEach (tables : SyscallTables) (pid : ℤ) (st : FDStateStore)
    (closes : List SyscallEventView) : FDStateStore :=
  closes.foldl (fun st view => st.cleanupClosedFD tables view .close pid) st

/-- Control the close-on-exec bit of a descriptor. -/
def fcntlCloexec (pid : ℤ) (st : FDStateStore) (view : SyscallEventView) : FDStateStore :=
  {st with
    fdCloexec := applyWrites (slotKey pid) st.fdCloexec (updateFcntlFDCloexec .fcntl view pid)}

/-- Control descriptors one by one. -/
def markEach (pid : ℤ) (st : FDStateStore) (controls : List SyscallEventView) : FDStateStore :=
  controls.foldl (fcntlCloexec pid) st

section Tables

variable {tables : SyscallTables} {t : DescriptorTable} {pid : ℤ} {key : FDKey}

/-- Entries determine a table. -/
theorem eq_of_entry {u : DescriptorTable} (htainted : t.tainted=u.tainted)
    (h : ∀ key, t.entry key=u.entry key) : t=u := by
  have hpaths : t.paths=u.paths := funext fun key => congrArg FDEntry.path (h key)
  have hoffsets : t.offsets=u.offsets := funext fun key => congrArg FDEntry.offset (h key)
  have hstates : t.fdStates=u.fdStates := funext fun key => congrArg FDEntry.observation (h key)
  have hcloexec : t.fdCloexec=u.fdCloexec := funext fun key => congrArg FDEntry.cloexec (h key)
  cases t
  cases u
  simp_all

/-- Whether an entry holds anything. -/
def isKnown (entry : FDEntry) : Bool :=
  entry.path.isSome || entry.offset.isSome || entry.observation.isSome || entry.cloexec.isSome

/-- An entry that holds nothing is empty. -/
theorem eq_empty_of_not_isKnown {entry : FDEntry} (h : isKnown entry=false) : entry={} := by
  simp only [isKnown,Bool.or_eq_false_iff,Option.isSome_eq_false_iff,
    Option.isNone_iff_eq_none] at h
  obtain ⟨⟨⟨hpath,hoffset⟩,hobservation⟩,hcloexec⟩ := h
  exact FDEntry.ext hpath hoffset hobservation hcloexec

/-- A range holds the descriptors of one process. -/
theorem inRange_iff {first last : UInt32} :
    inRange pid first last key=true ↔ ∃ fd, key=(pid,.fd fd) ∧ fdInRange first last fd := by
  obtain ⟨owner,slot⟩ := key
  cases slot with
  | cwd => simp [inRange,slotNumber]
  | fd n =>
    by_cases hn : 0 ≤ n.toInt
    · simp only [inRange,slotNumber,if_pos hn,Option.any_some,Bool.and_eq_true,decide_eq_true_iff,
        Prod.mk.injEq,FDSlot.fd.injEq,fdInRange]
      constructor
      · rintro ⟨rfl,hfirst,hlast⟩
        exact ⟨n,⟨rfl,rfl⟩,hn,by omega,by omega⟩
      · rintro ⟨fd,⟨rfl,rfl⟩,-,hfirst,hlast⟩
        exact ⟨rfl,by omega,by omega⟩
    · simp only [inRange,slotNumber,if_neg hn,Option.any_none,Bool.and_false,Bool.false_eq_true,
        false_iff]
      rintro ⟨fd,heq,hfd,-⟩
      simp only [Prod.mk.injEq,FDSlot.fd.injEq] at heq
      exact hn (heq.2 ▸ hfd)

/-- Close descriptors of a table one by one. -/
def closeEachTable (tables : SyscallTables) (pid : ℤ) (t : DescriptorTable)
    (closes : List SyscallEventView) : DescriptorTable :=
  closes.foldl (fun t view => t.cleanupClosedFD tables view .close pid) t

/-- Closing one by one keeps the image. -/
theorem represents_closeEach {st : FDStateStore} (h : Represents st t)
    (closes : List SyscallEventView) :
    Represents (closeEach tables pid st closes) (closeEachTable tables pid t closes) := by
  induction closes generalizing st t with
  | nil => exact h
  | cons view closes ih =>
    have hcovered : Covered st (.cleanupClosedFD view .close pid) {} := trivial
    exact ih (h.perform _ hcovered)

/-- Closing one by one removes exactly the closed descriptors. -/
theorem entry_closeEachTable {closes : List SyscallEventView}
    (hcloses : ∀ view∈closes, IsClose tables view) :
    (closeEachTable tables pid t closes).tainted=t.tainted ∧
      (closeEachTable tables pid t closes).entry key=
        if ∃ view∈closes, key=(pid,.fd (fdArg view.args[0])) then {} else t.entry key := by
  induction closes generalizing t with
  | nil => simp [closeEachTable]
  | cons view closes ih =>
    have hview := hcloses view List.mem_cons_self
    obtain ⟨htainted,hentry⟩ := ih (t := t.cleanupClosedFD tables view .close pid)
      fun other hother => hcloses other (List.mem_cons_of_mem view hother)
    constructor
    · refine htainted.trans ?_
      unfold DescriptorTable.cleanupClosedFD
      split_ifs <;> rfl
    · refine hentry.trans ?_
      rw [entry_cleanupClosedFD hview]
      by_cases hfirst : key=(pid,.fd (fdArg view.args[0]))
      · simp [hfirst]
      · simp [hfirst]

/-- Control the close-on-exec bit of a descriptor of a table. -/
def fcntlCloexecTable (pid : ℤ) (t : DescriptorTable) (view : SyscallEventView) :
    DescriptorTable :=
  {t with fdCloexec := writeAll (Prod.mk pid) t.fdCloexec (updateFcntlFDCloexec .fcntl view pid)}

/-- Control descriptors of a table one by one. -/
def markEachTable (pid : ℤ) (t : DescriptorTable) (controls : List SyscallEventView) :
    DescriptorTable :=
  controls.foldl (fcntlCloexecTable pid) t

/-- Controlling one by one keeps the image. -/
theorem represents_markEach {st : FDStateStore} (h : Represents st t)
    (controls : List SyscallEventView) :
    Represents (markEach pid st controls) (markEachTable pid t controls) := by
  induction controls generalizing st t with
  | nil => exact h
  | cons view controls ih =>
    have hstep : Represents (fcntlCloexec pid st view) (fcntlCloexecTable pid t view) :=
      ⟨h.tainted,h.paths,h.offsets,h.fdStates,mirrors_applyWrites h.fdCloexec pid _⟩
    exact ih hstep

/-- A control that marks a descriptor writes its bit, if both numbers are proper. -/
theorem updateFcntlFDCloexec_of_isSetCloexec {view : SyscallEventView} (h : IsSetCloexec view)
    (hpid : 0 < pid) (hfd : 0 ≤ (fdArg view.args[0]).toInt) :
    updateFcntlFDCloexec .fcntl view pid=[remember (fdArg view.args[0]) true] := by
  obtain ⟨-,hcommand,hret,hflag⟩ := h
  have hnegative : ¬fdArg view.args[0] < 0 := by
    rw [Int32.lt_iff_toInt_lt]
    simpa using hfd
  unfold updateFcntlFDCloexec replaceFDCloexec
  rw [if_pos ⟨hcommand,hret⟩,if_neg (by simp [hnegative,hpid])]
  simp [remember,hflag]

/-- A control of no process writes nothing. -/
theorem updateFcntlFDCloexec_of_not_positive {view : SyscallEventView} (h : IsSetCloexec view)
    (hpid : ¬0 < pid) : updateFcntlFDCloexec .fcntl view pid=[] := by
  unfold updateFcntlFDCloexec replaceFDCloexec
  rw [if_pos ⟨h.2.1,h.2.2.1⟩,if_pos (Or.inl (by omega))]

/-- Controlling one by one marks exactly the controlled descriptors. -/
theorem fdCloexec_markEachTable {controls : List SyscallEventView} (hpid : 0 < pid)
    (hcontrols : ∀ view∈controls, IsSetCloexec view ∧ 0 ≤ (fdArg view.args[0]).toInt) :
    markEachTable pid t controls={t with
      fdCloexec := fun key =>
        if ∃ view∈controls, key=(pid,.fd (fdArg view.args[0])) then some true
        else t.fdCloexec key} := by
  induction controls generalizing t with
  | nil => simp [markEachTable]
  | cons view controls ih =>
    obtain ⟨hview,hfd⟩ := hcontrols view List.mem_cons_self
    have hrest := ih (t := fcntlCloexecTable pid t view)
      fun other hother => hcontrols other (List.mem_cons_of_mem view hother)
    refine hrest.trans ?_
    unfold fcntlCloexecTable
    rw [updateFcntlFDCloexec_of_isSetCloexec hview hpid hfd]
    congr 1
    funext key
    by_cases hlater : ∃ other∈controls, key=(pid,.fd (fdArg other.args[0]))
    · simp [hlater]
    · by_cases hfirst : key=(pid,.fd (fdArg view.args[0])) <;>
        simp [hlater,hfirst,writeAll,remember]

/-- Controls of no process change nothing. -/
theorem markEachTable_of_not_positive {controls : List SyscallEventView} (hpid : ¬0 < pid)
    (hcontrols : ∀ view∈controls, IsSetCloexec view) : markEachTable pid t controls=t := by
  induction controls with
  | nil => rfl
  | cons view controls ih =>
    have hstep : fcntlCloexecTable pid t view=t := by
      unfold fcntlCloexecTable
      rw [updateFcntlFDCloexec_of_not_positive (hcontrols view List.mem_cons_self) hpid]
      rfl
    have hrest := ih fun other hother => hcontrols other (List.mem_cons_of_mem view hother)
    exact (congrArg (fun t => markEachTable pid t controls) hstep).trans hrest

end Tables

section Ranges

variable {tables : SyscallTables} {st : FDStateStore} {t : DescriptorTable} {orders : LoopOrders}
  {view : SyscallEventView} {pid : ℤ}

/-- A successful range call of a process is carried out. -/
theorem IsCloseRange.closesRange (h : IsCloseRange view) (hpid : 0 < pid) :
    FDStateStore.closesRange view pid=true := by
  simp [FDStateStore.closesRange,h.valid,h.exit,h.ret,h.probe,h.range,h.flags,hpid]

/-- Only a successful range call of a process is carried out. -/
theorem isCloseRange_of_closesRange (h : FDStateStore.closesRange view pid=true) :
    IsCloseRange view ∧ 0 < pid := by
  simp only [FDStateStore.closesRange,Bool.and_eq_true,beq_iff_eq,bne_iff_ne,
    decide_eq_true_iff] at h
  obtain ⟨⟨⟨⟨⟨⟨hvalid,hexit⟩,hret⟩,hprobe⟩,hpid⟩,hrange⟩,hflags⟩ := h
  exact ⟨⟨hvalid,hexit,hret,hprobe,hrange,hflags⟩,hpid⟩

/-- A range call without a process, a failed one and one with other flags are not. -/
theorem updateCloseRangeState_of_not
    (h : ¬0 < pid ∨ view.ret≠0 ∨ view.args[2].toUInt32 &&& ~~~6≠0) :
    st.updateCloseRangeState orders view pid=st := by
  have hcloses : FDStateStore.closesRange view pid=false := by
    rw [Bool.eq_false_iff]
    intro hcloses
    obtain ⟨hview,hpid⟩ := isCloseRange_of_closesRange hcloses
    rcases h with hnot | hret | hflags
    · exact hnot hpid
    · exact hret hview.ret
    · exact hflags hview.flags
  unfold FDStateStore.updateCloseRangeState
  rw [if_pos hcloses]

/-- Outside its range a call leaves every entry. -/
theorem entry_updateCloseRangeState_of_not_inRange {key : FDKey}
    (h : inRange pid view.args[0].toUInt32 view.args[1].toUInt32 key=false) :
    (t.updateCloseRangeState view pid).entry key=t.entry key := by
  unfold DescriptorTable.updateCloseRangeState
  split_ifs
  · rfl
  · simp [DescriptorTable.entry,DescriptorTable.markRange,h]
  · simp [DescriptorTable.entry,DescriptorTable.removeRange,dropWhere_const,h]

theorem updateCloseRangeState_table_tainted :
    (t.updateCloseRangeState view pid).tainted=t.tainted := by
  unfold DescriptorTable.updateCloseRangeState
  split_ifs <;> rfl

/-- Closing a range of a table closes its known descriptors one by one. -/
theorem removeRange_eq_closeEach (hview : IsCloseRange view)
    (hplain : view.args[2].toUInt32 &&& 4=0) (hpid : 0 < pid) {closes : List SyscallEventView}
    (hcloses : ∀ c∈closes, IsClose tables c ∧
      fdInRange view.args[0].toUInt32 view.args[1].toUInt32 (fdArg c.args[0]))
    (hall : ∀ fd, fdInRange view.args[0].toUInt32 view.args[1].toUInt32 fd →
      isKnown (t.entry (pid,.fd fd))=true → ∃ c∈closes, fdArg c.args[0]=fd) :
    t.updateCloseRangeState view pid=closeEachTable tables pid t closes := by
  have hentries : ∀ key, (closeEachTable tables pid t closes).tainted=t.tainted ∧
      (closeEachTable tables pid t closes).entry key=
        if ∃ c∈closes, key=(pid,.fd (fdArg c.args[0])) then {} else t.entry key :=
    fun key => entry_closeEachTable fun c hc => (hcloses c hc).1
  apply eq_of_entry
  · rw [updateCloseRangeState_table_tainted,(hentries (0,.cwd)).1]
  · intro key
    rw [(hentries key).2,entry_updateCloseRangeState (hview.closesRange hpid) hplain]
    by_cases hclosed : ∃ c∈closes, key=(pid,.fd (fdArg c.args[0]))
    · obtain ⟨c,hc,rfl⟩ := hclosed
      rw [if_pos (inRange_iff.mpr ⟨_,rfl,(hcloses c hc).2⟩),if_pos ⟨c,hc,rfl⟩]
    · rw [if_neg hclosed]
      split_ifs with hrange
      · obtain ⟨fd,rfl,hfd⟩ := inRange_iff.mp hrange
        have hunknown : isKnown (t.entry (pid,.fd fd))=false := by
          by_contra hknown
          obtain ⟨c,hc,rfl⟩ := hall fd hfd (by simpa using hknown)
          exact hclosed ⟨c,hc,rfl⟩
        exact (eq_empty_of_not_isKnown hunknown).symm
      · rfl

/-- Marking a range of a table controls its known descriptors one by one. -/
theorem markRange_eq_markEach (hview : IsCloseRange view)
    (hcloexec : view.args[2].toUInt32 &&& 4≠0) (hpid : 0 < pid) {controls : List SyscallEventView}
    (hcontrols : ∀ c∈controls, IsSetCloexec c)
    (hall : ∀ fd, (∃ c∈controls, fdArg c.args[0]=fd) ↔
      fdInRange view.args[0].toUInt32 view.args[1].toUInt32 fd ∧
        isKnown (t.entry (pid,.fd fd))=true) :
    t.updateCloseRangeState view pid=markEachTable pid t controls := by
  have hnonnegative : ∀ c∈controls, IsSetCloexec c ∧ 0 ≤ (fdArg c.args[0]).toInt :=
    fun c hc => ⟨hcontrols c hc,((hall _).mp ⟨c,hc,rfl⟩).1.1⟩
  rw [fdCloexec_markEachTable hpid hnonnegative]
  unfold DescriptorTable.updateCloseRangeState
  rw [if_neg (by simp [hview.closesRange hpid]),if_pos hcloexec]
  unfold DescriptorTable.markRange
  congr 1
  funext key
  apply if_congr _ rfl rfl
  constructor
  · rintro ⟨hrange,hknown⟩
    obtain ⟨fd,rfl,hfd⟩ := inRange_iff.mp hrange
    obtain ⟨c,hc,rfl⟩ := (hall fd).mpr ⟨hfd,hknown⟩
    exact ⟨c,hc,rfl⟩
  · rintro ⟨c,hc,rfl⟩
    obtain ⟨hfd,hknown⟩ := (hall _).mp ⟨c,hc,rfl⟩
    exact ⟨inRange_iff.mpr ⟨_,rfl,hfd⟩,hknown⟩

/-- A successful range call does to the store what single calls do. Without the close-on-exec flag
and for a process with a positive number it closes the descriptors of the range, in any order and
known or not; with the flag it controls exactly the known descriptors of the range. Everything
outside the range, every working directory and every other process stay, and a call that failed or
has unknown flags changes nothing. -/
theorem close_range_matches_single_calls (tables : SyscallTables) (st : FDStateStore)
    (t : DescriptorTable) (h : Represents st t) (orders : LoopOrders)
    (hcover : LoopsCover orders st) (view : SyscallEventView) (pid : ℤ) :
    (IsCloseRange view → view.args[2].toUInt32 &&& 4=0 → 0 < pid →
      ∀ closes : List SyscallEventView,
      (∀ c∈closes, IsClose tables c ∧
        fdInRange view.args[0].toUInt32 view.args[1].toUInt32 (fdArg c.args[0])) →
      (∀ fd, fdInRange view.args[0].toUInt32 view.args[1].toUInt32 fd →
        isKnown (storeEntry st (pid,.fd fd))=true → ∃ c∈closes, fdArg c.args[0]=fd) →
      st.updateCloseRangeState orders view pid=closeEach tables pid st closes) ∧
    (IsCloseRange view → view.args[2].toUInt32 &&& 4≠0 →
      ∀ controls : List SyscallEventView, (∀ c∈controls, IsSetCloexec c) →
      (∀ fd, (∃ c∈controls, fdArg c.args[0]=fd) ↔
        fdInRange view.args[0].toUInt32 view.args[1].toUInt32 fd ∧
          isKnown (storeEntry st (pid,.fd fd))=true) →
      st.updateCloseRangeState orders view pid=markEach pid st controls) ∧
    (∀ owner slot, owner≠pid ∨ slot=.cwd ∨ (∃ fd, slot=.fd fd ∧
        ¬fdInRange view.args[0].toUInt32 view.args[1].toUInt32 fd) →
      storeEntry (st.updateCloseRangeState orders view pid) (owner,slot)=
        storeEntry st (owner,slot)) ∧
    (view.ret≠0 ∨ view.args[2].toUInt32 &&& ~~~6≠0 →
      st.updateCloseRangeState orders view pid=st) := by
  have hrange := h.updateCloseRangeState hcover view pid
  rw [storeEntry_of_represents h,storeEntry_of_represents hrange]
  refine ⟨?_,?_,?_,?_⟩
  · intro hview hplain hpid closes hcloses hall
    rw [removeRange_eq_closeEach hview hplain hpid hcloses hall] at hrange
    exact hrange.eq (represents_closeEach h closes)
  · intro hview hcloexec controls hcontrols hall
    by_cases hpid : 0 < pid
    · rw [markRange_eq_markEach hview hcloexec hpid hcontrols hall] at hrange
      exact hrange.eq (represents_markEach h controls)
    · rw [updateCloseRangeState_of_not (Or.inl hpid)]
      have hmark : Represents (markEach pid st controls) (markEachTable pid t controls) :=
        represents_markEach h controls
      rw [markEachTable_of_not_positive hpid hcontrols] at hmark
      exact h.eq hmark
  · intro owner slot hout
    apply entry_updateCloseRangeState_of_not_inRange
    rw [Bool.eq_false_iff]
    intro hin
    obtain ⟨fd,hkey,hfd⟩ := inRange_iff.mp hin
    obtain ⟨rfl,rfl⟩ := Prod.mk.inj hkey
    rcases hout with howner | hslot | ⟨other,hother,hnot⟩
    · exact howner rfl
    · exact FDSlot.noConfusion hslot
    · obtain rfl := FDSlot.fd.inj hother
      exact hnot hfd
  · exact fun hnot => updateCloseRangeState_of_not (Or.inr hnot)

end Ranges

section Exits

variable {tables : SyscallTables} {st : FDStateStore} {update : FDStateUpdate}

/-- An event that carries no path names no path and no snapshot. -/
theorem resolved_of_overlay_empty
    (hoverlay : fdPathOverlayFromSections update.source.payloadSections={}) :
    update.resolved={} := by
  have hargs : ∀ (order : List ℤ) (view : SyscallEventView) (resolved : EventFDStateView),
      order.foldl (resolveArg {} view) resolved=resolved := by
    intro order view resolved
    induction order with
    | nil => rfl
    | cons arg order ih => exact ih
  have hfds : ∀ (order : List Int32) (resolved : EventFDStateView),
      order.foldl (resolveFD {}) resolved=resolved := by
    intro order resolved
    induction order with
    | nil => rfl
    | cons fd order ih => exact ih
  unfold FDStateUpdate.resolved FDPathOverlay.resolve
  rw [hoverlay]
  change (if update.source.view.valid=false then ({} : EventFDStateView) else _)={}
  split_ifs
  · rfl
  · exact (hargs _ _ _).trans (hfds _ _)

theorem resolved_of_no_sections (hsections : update.source.payloadSections=[]) :
    update.resolved={} := by
  apply resolved_of_overlay_empty
  rw [hsections]
  rfl

theorem mapWrites_empty {V : Type} (order : List Int32) :
    mapWrites order (∅ : GoMap Int32 V)=[] := by
  unfold mapWrites
  rw [List.filterMap_eq_nil_iff]
  intro fd _
  rw [Finmap.lookup_empty]
  rfl

/-- Steps that write nothing change nothing. -/
theorem foldl_runWriter_of_nil {V : Type} {pid : ℤ} {writers : List (Reader V → Writes V)}
    (h : ∀ writer∈writers, ∀ r, writer r=[]) (m : GoMap String V) :
    writers.foldl (runWriter pid) m=m := by
  induction writers with
  | nil => rfl
  | cons writer writers ih =>
    rw [List.foldl_cons]
    unfold runWriter
    rw [h writer List.mem_cons_self]
    exact ih fun other hother => h other (List.mem_cons_of_mem writer hother)

/-- Syscalls of single and range closes and of controls that do not duplicate write no path. -/
theorem pathWriters_nil (hsections : update.source.payloadSections=[])
    (hname : update.name=.closeRange ∨ update.name=.close ∨
      update.name=.fcntl ∧ isFcntlFDStateCommand update.source.view.args=false) :
    ∀ writer∈pathWriters update, ∀ r, writer r=[] := by
  have hdup : duplicatedFDsFromView update.source.view update.name=none := by
    unfold duplicatedFDsFromView
    rcases hname with hname | hname | ⟨hname,hcommand⟩ <;>
      simp_all [isDuplicatedFDStateSyscall,isFcntlFDStateSyscall]
  have hkind : isFDStateCreatorName update.name=false ∧
      isOpenedPathFDStateSyscall update.name=false ∧ namesPipeOrSocket update.name=false ∧
      movesDirectoryOrCounter update.name=false := by
    rcases hname with hname | hname | ⟨hname,_⟩ <;> rw [hname] <;> exact ⟨rfl,rfl,rfl,rfl⟩
  intro writer hwriter r
  obtain ⟨hcreated,hopened⟩ := createdWrites_nil hkind.1 hkind.2.1 r
  obtain ⟨hpipe,hsocketpair,hnetlink,hsocket⟩ := pipeAndSocketWrites_nil hkind.2.2.1 r
  obtain ⟨hcwd,heventfd,hcount⟩ := directoryAndCounterWrites_nil hkind.2.2.2 r
  simp only [pathWriters,List.mem_cons,List.not_mem_nil,or_false] at hwriter
  rcases hwriter with rfl | rfl | rfl | rfl | rfl | rfl | rfl | rfl | rfl | rfl | rfl | rfl
  · simp only [overlayPathWrites,resolved_of_no_sections hsections,mapWrites_empty]
  · simp [overlayCwdWrites,hsections,fdPathOverlayFromSections]
  · exact hcreated
  · exact hopened
  · simp [updateDupFDMapFromSource,hdup]
  · exact hpipe
  · exact hsocketpair
  · exact hnetlink
  · exact hsocket
  · exact hcwd
  · exact heventfd
  · exact hcount

/-- Such an event without sections records close-on-exec bits only. -/
theorem recordFDState_of_no_sections (hsections : update.source.payloadSections=[])
    (hname : update.name=.closeRange ∨ update.name=.close ∨
      update.name=.fcntl ∧ isFcntlFDStateCommand update.source.view.args=false) :
    st.recordFDState update={st with
      fdCloexec := applyWrites (slotKey update.targetPID) st.fdCloexec
        (updateFDCloexecFromSource update.source update.name update.targetPID)} := by
  have hobservations : updateFDStateObservationFromSource update.source update.name=[] := by
    unfold updateFDStateObservationFromSource
    rcases hname with hname | hname | ⟨hname,hcommand⟩ <;>
      simp_all [isFDStateObservationSyscall,isOpenedPathFDStateSyscall,isFDStateCreatorName,
        isDuplicatedFDStateSyscall,isFDArrayFDStateSyscall,isFcntlFDStateSyscall]
  have hoffsets : updateFDStateOffsetsFromSource update.source update.name=[] := by
    unfold updateFDStateOffsetsFromSource
    rcases hname with hname | hname | ⟨hname,_⟩ <;> simp [hname,isFDArrayFDStateSyscall]
  unfold FDStateStore.recordFDState
  rw [foldl_runWriter_of_nil (pathWriters_nil hsections hname),resolved_of_no_sections hsections,
    hobservations,hoffsets,mapWrites_empty]
  rfl

/-- The exit of a range call closes or marks the range. -/
theorem exitUpdate_closeRange (hname : update.name=.closeRange)
    (htable : update.name=syscallName (tables.name update.source.view.sysID))
    (hsections : update.source.payloadSections=[]) (hvalid : update.source.view.valid=true)
    (htainted : st.tainted=false) (orders : LoopOrders) :
    exitUpdate tables st update orders=
      st.updateCloseRangeState orders update.source.view update.targetPID := by
  have htraits := syscallEventTraitsForView_eq htable
  rw [hname] at htraits
  have hrecord : st.recordFDState update=st := by
    rw [recordFDState_of_no_sections hsections (Or.inl hname)]
    simp [updateFDCloexecFromSource,hname,fdCreatorPolicyFor,isOpenedPathFDStateSyscall,
      isDuplicatedFDStateSyscall,isFcntlFDStateSyscall,isFDArrayFDStateSyscall]
  have happly : st.applyFDState tables update orders=
      st.updateCloseRangeState orders update.source.view update.targetPID := by
    unfold FDStateStore.applyFDState shouldApplyFDStateEvent
    rw [hname,htraits,if_neg (by simp [htainted,hsections,hvalid,syscallEventTraitsForName]),
      if_pos rfl,hrecord]
  unfold exitUpdate shouldApplyFDOffsetEvent FDStateStore.cleanupClosedFD
    shouldCleanupClosedFDEvent
  dsimp only
  rw [happly,hname,htraits]
  simp [syscallEventTraitsForName,isFDStateCreatorName,isOpenedPathFDStateSyscall,
    isDuplicatedFDStateSyscall,isFcntlFDStateSyscall]

/-- The exit of a close forgets the descriptor. -/
theorem exitUpdate_close (hname : update.name=.close)
    (htable : update.name=syscallName (tables.name update.source.view.sysID))
    (hsections : update.source.payloadSections=[]) (orders : LoopOrders) :
    exitUpdate tables st update orders=
      st.cleanupClosedFD tables update.source.view .close update.targetPID := by
  have htraits := syscallEventTraitsForView_eq htable
  rw [hname] at htraits
  have happly : st.applyFDState tables update orders=st := by
    unfold FDStateStore.applyFDState shouldApplyFDStateEvent
    rw [hname,htraits,if_pos (by simp [hsections,syscallEventTraitsForName,isFDStateCreatorName,
      isOpenedPathFDStateSyscall,isDuplicatedFDStateSyscall,isFcntlFDStateSyscall])]
  unfold exitUpdate shouldApplyFDOffsetEvent
  dsimp only
  rw [happly,hname,htraits]
  simp [syscallEventTraitsForName,isFDStateCreatorName,isOpenedPathFDStateSyscall,
    isDuplicatedFDStateSyscall,isFcntlFDStateSyscall]

/-- The exit of a control that marks a descriptor writes its close-on-exec bit. -/
theorem exitUpdate_fcntl (hname : update.name=.fcntl)
    (htable : update.name=syscallName (tables.name update.source.view.sysID))
    (hsections : update.source.payloadSections=[]) (hcontrol : IsSetCloexec update.source.view)
    (htainted : st.tainted=false) (orders : LoopOrders) :
    exitUpdate tables st update orders=fcntlCloexec update.targetPID st update.source.view := by
  obtain ⟨hvalid,hcommand,hret,hflag⟩ := hcontrol
  have htraits := syscallEventTraitsForView_eq htable
  rw [hname] at htraits
  have hduplicates : isFcntlFDStateCommand update.source.view.args=false := by
    simp [isFcntlFDStateCommand,hcommand]
  have hcloexec : updateFDCloexecFromSource update.source .fcntl update.targetPID=
      updateFcntlFDCloexec .fcntl update.source.view update.targetPID := by
    unfold updateFDCloexecFromSource
    rw [if_neg (by simp [hvalid,hret])]
    rfl
  have happly : st.applyFDState tables update orders=
      fcntlCloexec update.targetPID st update.source.view := by
    unfold FDStateStore.applyFDState shouldApplyFDStateEvent
    rw [if_neg (by simp [hname,htraits,htainted,hsections,hvalid,syscallEventTraitsForName,
      isFcntlFDStateSyscall]),if_neg (by simp [hname]),
      recordFDState_of_no_sections hsections (Or.inr (Or.inr ⟨hname,hduplicates⟩)),hname,hcloexec]
    rfl
  have hoffsets : (fcntlCloexec update.targetPID st update.source.view).applyFDOffsets
      update.source.view .fcntl update.targetPID=
        fcntlCloexec update.targetPID st update.source.view := by
    have hdup : duplicatedFDsFromView update.source.view .fcntl=none := by
      simp [duplicatedFDsFromView,hduplicates,isDuplicatedFDStateSyscall]
    unfold FDStateStore.applyFDOffsets runWriter updateOffsetsFromView
    simp [fcntlCloexec,htainted,hdup,isFDStateCreatorName,isOpenedPathFDStateSyscall,
      isDuplicatedFDStateSyscall,isFcntlFDStateSyscall]
  unfold exitUpdate FDStateStore.cleanupClosedFD shouldCleanupClosedFDEvent
  dsimp only
  rw [happly,hname,htraits,hoffsets]
  simp [syscallEventTraitsForName]

end Exits

section Samples

/-- Syscall table of the samples. -/
def rangeTables : SyscallTables :=
  ⟨fun id => if id=3 then "close" else "open",fun _ => false,fun _ => false⟩

/-- Exit of a range call on descriptors three to five. -/
def closeThreeToFive : SyscallEventView :=
  ({eventType := .exit, sysID := 436, args := ⟨#[3,5,0,0,0,0],rfl⟩} :
    TraceEventEnvelope).syscallView

/-- Exit of a close. -/
def closeOf (fd : UInt64) : SyscallEventView :=
  ({eventType := .exit, sysID := 3, args := ⟨#[fd,0,0,0,0,0],rfl⟩} :
    TraceEventEnvelope).syscallView

/-- Exits that close descriptors three to five. -/
def closesThreeToFive : List SyscallEventView := [closeOf 5,closeOf 3,closeOf 4]

/-- Store after a descriptor was opened. -/
def openedStore (update : FDStateUpdate) : FDStateStore :=
  (newFDStateStoreFromSeed []).perform rangeTables (.applyFDState update) {}

theorem isCloseRange_closeThreeToFive : IsCloseRange closeThreeToFive :=
  ⟨rfl,rfl,rfl,by decide,by decide,by decide⟩

theorem closesThreeToFive_inRange : ∀ c∈closesThreeToFive, IsClose rangeTables c ∧
    fdInRange closeThreeToFive.args[0].toUInt32 closeThreeToFive.args[1].toUInt32
      (fdArg c.args[0]) := by
  unfold closesThreeToFive fdInRange IsClose
  simp only [List.mem_cons,List.not_mem_nil,or_false]
  rintro c (rfl | rfl | rfl) <;> decide

theorem closesThreeToFive_all (fd : Int32)
    (h : fdInRange closeThreeToFive.args[0].toUInt32 closeThreeToFive.args[1].toUInt32 fd) :
    ∃ c∈closesThreeToFive, fdArg c.args[0]=fd := by
  obtain ⟨-,hfirst,hlast⟩ := h
  have hfirst : 3 ≤ fd.toInt := hfirst
  have hlast : fd.toInt ≤ 5 := hlast
  have hcases : fd.toInt=(3 : Int32).toInt ∨ fd.toInt=(4 : Int32).toInt ∨
      fd.toInt=(5 : Int32).toInt := by
    change fd.toInt=3 ∨ fd.toInt=4 ∨ fd.toInt=5
    omega
  rcases hcases with hfd | hfd | hfd
  · exact ⟨closeOf 3,by simp [closesThreeToFive],(Int32.toInt_inj.mp hfd).symm⟩
  · exact ⟨closeOf 4,by simp [closesThreeToFive],(Int32.toInt_inj.mp hfd).symm⟩
  · exact ⟨closeOf 5,by simp [closesThreeToFive],(Int32.toInt_inj.mp hfd).symm⟩

/-- The store after an open is the image of a table. -/
theorem represents_openedStore {update : FDStateUpdate} (hname : update.name≠.closeRange) :
    ∃ t, Represents (openedStore update) t :=
  ⟨_,(represents_newFDStateStoreFromSeed []).perform (.applyFDState update)
    fun hrange => absurd hrange hname⟩

theorem exists_loopsCover (st : FDStateStore) : ∃ orders, LoopsCover orders st := by
  obtain ⟨paths,hpaths⟩ := exists_covers st.paths
  obtain ⟨offsets,hoffsets⟩ := exists_covers st.offsets
  obtain ⟨fdStates,hfdStates⟩ := exists_covers st.fdStates
  obtain ⟨fdCloexec,hfdCloexec⟩ := exists_covers st.fdCloexec
  exact ⟨⟨paths,offsets,fdStates,fdCloexec⟩,hpaths,hoffsets,hfdStates,hfdCloexec⟩

/-- A range with an open descriptor, closed at once and one by one. -/
theorem close_range_matches_single_calls_three :
    ∃ orders, LoopsCover orders (openedStore openedFile) ∧
      (openedStore openedFile).path 100 3=some "/x" ∧
      (openedStore openedFile).updateCloseRangeState orders closeThreeToFive 100=
        closeEach rangeTables 100 (openedStore openedFile) closesThreeToFive := by
  obtain ⟨orders,hcover⟩ := exists_loopsCover (openedStore openedFile)
  obtain ⟨t,ht⟩ := represents_openedStore (by decide : openedFile.name≠.closeRange)
  refine ⟨orders,hcover,by decide,?_⟩
  exact (close_range_matches_single_calls rangeTables _ t ht orders hcover closeThreeToFive 100).1
    isCloseRange_closeThreeToFive (by decide) (by decide) closesThreeToFive
    closesThreeToFive_inRange fun fd hfd _ => closesThreeToFive_all fd hfd

/-- A range of process zero is not closed, its descriptors are. -/
theorem close_range_of_zero_closes_nothing :
    ¬∀ (tables : SyscallTables) (st : FDStateStore) (t : DescriptorTable) (orders : LoopOrders)
      (view : SyscallEventView) (pid : ℤ) (closes : List SyscallEventView),
      Represents st t → LoopsCover orders st → IsCloseRange view →
      view.args[2].toUInt32 &&& 4=0 →
      (∀ c∈closes, IsClose tables c ∧
        fdInRange view.args[0].toUInt32 view.args[1].toUInt32 (fdArg c.args[0])) →
      (∀ fd, fdInRange view.args[0].toUInt32 view.args[1].toUInt32 fd →
        ∃ c∈closes, fdArg c.args[0]=fd) →
      st.updateCloseRangeState orders view pid=closeEach tables pid st closes := by
  intro h
  obtain ⟨orders,hcover⟩ := exists_loopsCover (openedStore openedByZero)
  obtain ⟨t,ht⟩ := represents_openedStore (by decide : openedByZero.name≠.closeRange)
  have hclosed := h rangeTables _ t orders closeThreeToFive 0 closesThreeToFive ht hcover
    isCloseRange_closeThreeToFive (by decide) closesThreeToFive_inRange closesThreeToFive_all
  rw [updateCloseRangeState_of_not (Or.inl (by decide))] at hclosed
  have hbefore : (openedStore openedByZero).path 0 3=some "/x" := by decide
  have hafter : (closeEach rangeTables 0 (openedStore openedByZero) closesThreeToFive).path 0 3=
      none := by decide
  rw [←hclosed,hbefore] at hafter
  exact Option.some_ne_none _ hafter

end Samples

end StraceGo.FDStateCloseRange

import StraceGo.FDStateRefinement
import StraceGo.FDStateTaint

/-!
# Reuse of a descriptor number

What the store records for a new descriptor should not depend on what it had
recorded for the number before. Each of the four maps forgets the number
exactly when the event writes it there. An open whose path was not captured
leaves the old path, a socket leaves the old offset and close-on-exec bit, and
a pair without snapshots leaves the old snapshot and offset.
-/

namespace StraceGo.FDStateReuse

open EventEnvelope FiniteMaps EventTaskLifecycle GoText KeyedMaps FDStateEvents FDState FDStateKeys
  FDStateTable FDStateRefinement FDStateTaint

/-- Everything the exit of a syscall does to the store. -/
def exitUpdate (tables : SyscallTables) (st : FDStateStore) (update : FDStateUpdate)
    (orders : LoopOrders) : FDStateStore :=
  let view := update.source.view
  let st := st.applyFDState tables update orders
  let st := if shouldApplyFDOffsetEvent tables view update.name then
    st.applyFDOffsets view update.name update.targetPID else st
  st.cleanupClosedFD tables view update.name update.targetPID

/-- Syscalls that return a descriptor which is not a copy. -/
def returnsNew : SyscallName → Bool
  | .«open» | .openat | .openat2 | .creat | .socket => true
  | name => isFDStateCreatorName name

/-- A successful exit creates a descriptor. -/
def Creates (update : FDStateUpdate) (n : Int32) : Prop :=
  update.source.view.valid=true ∧ update.source.view.eventType=.exit ∧
  0 ≤ update.source.view.ret ∧
  (returnsNew update.name=true ∧ n=fdRet update.source.view ∨
    (∃ old, duplicatedFDsFromView update.source.view update.name=some (old,n) ∧ old≠n) ∨
    isFDArrayFDStateSyscall update.name=true ∧ update.source.view.ret=0 ∧
      ∃ pair, fdArrayPayloadData update.source.payloadSections (fdArrayArgIndex update.name)=
        some pair ∧ (n=pair.1 ∨ n=pair.2))

/-- The event replaces everything recorded for a descriptor. -/
structure Replaces (update : FDStateUpdate) (n : Int32) : Prop where
  /-- The path of an opened descriptor was captured, or the event names the number's path. -/
  path : isOpenedPathFDStateSyscall update.name=true →
    update.resolved.paths.lookup n≠none ∨
      isPathText update.pathText=true ∧ unquotedPath update.pathText≠""
  /-- The syscall replaces snapshots, or the event has one. -/
  observation : fdStateTargetReplaced update.source.view update.name=true ∨
    hasFDStateSnapshotForFD update.source n=true ∨ update.resolved.states.lookup n≠none
  /-- The numbers are proper, and the syscall is neither a socket nor a signal descriptor that
  already existed. -/
  cloexec : 0 < update.targetPID ∧ 0 ≤ n ∧ update.name≠.socket ∧
    ¬((update.name=.signalfd ∨ update.name=.signalfd4) ∧ fdArg update.source.view.args[0]≠-1 ∧
      hasFDStateSnapshotForFD update.source n=true)
  /-- The syscall sets offsets; a pair needs a snapshot with one. -/
  offset : update.name≠.socket ∧
    if isFDArrayFDStateSyscall update.name then
      ∃ observation∈sectionObservations update.source,
        observation.fd=n ∧ hasOffset observation=true
    else update.source.view.probeRetEnter≠3

/-- Some write addresses a slot. -/
def Touches {V : Type} (slot : FDSlot) (writes : Writes V) : Prop := ∃ w∈writes, w.address=slot

section Touching

variable {V : Type} {slot : FDSlot}

@[simp] theorem touches_nil : ¬Touches slot ([] : Writes V) := by simp [Touches]

@[simp] theorem touches_cons {w : Write FDSlot V} {writes : Writes V} :
    Touches slot (w::writes) ↔ w.address=slot ∨ Touches slot writes := by simp [Touches]

@[simp] theorem touches_append {a b : Writes V} :
    Touches slot (a ++ b) ↔ Touches slot a ∨ Touches slot b := by
  simp [Touches,or_and_right,exists_or]

@[simp] theorem remember_address (fd : Int32) (v : V) : (remember fd v).address=.fd fd := rfl

@[simp] theorem forget_address (fd : Int32) : (forget fd : Write FDSlot V).address=.fd fd := rfl

/-- What an event's map records. -/
theorem touches_mapWrites {order : List Int32} {m : GoMap Int32 V} (h : Covers order m)
    (n : Int32) : Touches (.fd n) (mapWrites order m) ↔ m.lookup n≠none := by
  unfold Touches mapWrites
  constructor
  · rintro ⟨w,hw,haddress⟩
    obtain ⟨fd,_,hfd⟩ := List.mem_filterMap.mp hw
    obtain ⟨v,hv,rfl⟩ := Option.map_eq_some_iff.mp hfd
    obtain rfl : fd=n := by simpa using haddress
    simp [hv]
  · intro hn
    obtain ⟨v,hv⟩ := Option.ne_none_iff_exists'.mp hn
    exact ⟨remember n v,List.mem_filterMap.mpr ⟨n,h n hn,by simp [hv]⟩,rfl⟩

/-- A step of an event does not read a slot. -/
def Ignores (slot : FDSlot) (writer : Reader V → Writes V) : Prop :=
  ∀ r r' : Reader V, (∀ other, other≠slot → r other=r' other) → writer r=writer r'

theorem ignores_const (writes : Writes V) : Ignores slot fun _ => writes := fun _ _ _ => rfl

end Touching

section Writers

variable {V : Type} {pid : ℤ} {slot : FDSlot} {m m' : GoMap String V}

theorem slotKey_injective (pid : ℤ) : Function.Injective (slotKey pid) := by
  intro a b h
  have htext : keyText (pid,a)=keyText (pid,b) := h
  exact congrArg Prod.snd (keyText_injective htext)

/-- Two maps that agree but for one slot have readers that agree but for it. -/
theorem AgreeExcept.reader (h : AgreeExcept (slotKey pid slot) m m') :
    ∀ other, other≠slot → m.lookup (slotKey pid other)=m'.lookup (slotKey pid other) :=
  fun _ hother => h _ fun hkey => hother (slotKey_injective pid hkey)

/-- A step that does not read the slot keeps two maps in agreement. -/
theorem agreeExcept_runWriter (h : AgreeExcept (slotKey pid slot) m m')
    {writer : Reader V → Writes V} (hignores : Ignores slot writer) :
    AgreeExcept (slotKey pid slot) (runWriter pid m writer) (runWriter pid m' writer) := by
  unfold runWriter
  rw [hignores _ _ (AgreeExcept.reader h)]
  exact h.applyWrites _

/-- A step that writes the slot without reading it makes two maps equal. -/
theorem runWriter_eq (h : AgreeExcept (slotKey pid slot) m m') {writer : Reader V → Writes V}
    (hignores : Ignores slot writer) (htouches : ∀ r, Touches slot (writer r)) :
    runWriter pid m writer=runWriter pid m' writer := by
  unfold runWriter
  rw [hignores _ _ (AgreeExcept.reader h)]
  obtain ⟨w,hw,haddress⟩ := htouches fun slot => m'.lookup (slotKey pid slot)
  exact h.applyWrites_eq ⟨w,hw,by rw [haddress]⟩

/-- Steps that do not read the slot make two maps equal once one of them writes it. -/
theorem foldl_runWriter_eq {writers : List (Reader V → Writes V)}
    (hignores : ∀ writer∈writers, Ignores slot writer)
    (htouches : ∃ writer∈writers, ∀ r, Touches slot (writer r))
    (h : AgreeExcept (slotKey pid slot) m m') :
    writers.foldl (runWriter pid) m=writers.foldl (runWriter pid) m' := by
  induction writers generalizing m m' with
  | nil => simp at htouches
  | cons writer writers ih =>
    have hfirst := hignores writer List.mem_cons_self
    have hrest := fun other hother => hignores other (List.mem_cons_of_mem writer hother)
    rw [List.foldl_cons,List.foldl_cons]
    by_cases hnow : ∀ r, Touches slot (writer r)
    · rw [runWriter_eq h hfirst hnow]
    · apply ih hrest _ (agreeExcept_runWriter h hfirst)
      obtain ⟨other,hother,htouch⟩ := htouches
      rcases List.mem_cons.mp hother with rfl | hother
      · exact absurd htouch hnow
      · exact ⟨other,hother,htouch⟩

/-- Writes elsewhere leave a slot. -/
theorem lookup_applyWrites_of_not_touches {writes : Writes V} (h : ¬Touches slot writes) :
    (applyWrites (slotKey pid) m writes).lookup (slotKey pid slot)=m.lookup (slotKey pid slot) :=
  lookup_applyWrites_of_ne fun w hw hkey => h ⟨w,hw,slotKey_injective pid hkey⟩

/-- Steps that do not write a slot leave it. -/
theorem lookup_foldl_runWriter {writers : List (Reader V → Writes V)}
    (h : ∀ writer∈writers, ∀ r, ¬Touches slot (writer r)) :
    (writers.foldl (runWriter pid) m).lookup (slotKey pid slot)=m.lookup (slotKey pid slot) := by
  induction writers generalizing m with
  | nil => rfl
  | cons writer writers ih =>
    rw [List.foldl_cons,ih fun other hother => h other (List.mem_cons_of_mem writer hother)]
    exact lookup_applyWrites_of_not_touches (h writer List.mem_cons_self _)

end Writers

section Events

variable {update : FDStateUpdate} {n : Int32}

/-- What a duplication is. -/
theorem duplicatedFDsFromView_eq_some {view : SyscallEventView} {name : SyscallName}
    {old new : Int32} (h : duplicatedFDsFromView view name=some (old,new)) :
    (isDuplicatedFDStateSyscall name=true ∨
      isFcntlFDStateSyscall name=true ∧ isFcntlFDStateCommand view.args=true) ∧
      old=fdArg view.args[0] ∧ new=fdRet view := by
  unfold duplicatedFDsFromView at h
  split_ifs at h with _ hname
  obtain ⟨rfl,rfl⟩ := Prod.mk.inj (Option.some.inj h)
  exact ⟨by simpa using hname,rfl,rfl⟩

/-- Kinds of syscalls that create descriptors. -/
theorem Creates.kind (h : Creates update n) :
    returnsNew update.name=true ∨ isDuplicatedFDStateSyscall update.name=true ∨
      isFcntlFDStateSyscall update.name=true ∨ isFDArrayFDStateSyscall update.name=true := by
  obtain ⟨_,_,_,hnew | ⟨old,hdup,_⟩ | harray⟩ := h
  · exact Or.inl hnew.1
  · rcases (duplicatedFDsFromView_eq_some hdup).1 with hname | hname
    · exact Or.inr (Or.inl hname)
    · exact Or.inr (Or.inr (Or.inl hname.1))
  · exact Or.inr (Or.inr (Or.inr harray.1))

/-- Syscalls that read or move other descriptors create none. -/
theorem Creates.name_ne (h : Creates update n) :
    update.name≠.openTree ∧ update.name≠.bind ∧ update.name≠.getsockname ∧ update.name≠.chdir ∧
      update.name≠.fchdir ∧ update.name≠.read ∧ update.name≠.write ∧ update.name≠.close ∧
      update.name≠.closeRange := by
  have hkind := h.kind
  refine ⟨?_,?_,?_,?_,?_,?_,?_,?_,?_⟩ <;> intro hname <;> rw [hname] at hkind <;>
    simp [returnsNew,isFDStateCreatorName,isDuplicatedFDStateSyscall,isFcntlFDStateSyscall,
      isFDArrayFDStateSyscall] at hkind

/-- A created pair. -/
theorem Creates.pair (h : Creates update n) (harray : isFDArrayFDStateSyscall update.name=true) :
    update.source.view.ret=0 ∧
      ∃ pair, fdArrayPayloadData update.source.payloadSections (fdArrayArgIndex update.name)=
        some pair ∧ (n=pair.1 ∨ n=pair.2) := by
  obtain ⟨_,_,_,hnew | ⟨old,hdup,_⟩ | hpair⟩ := h
  · cases hname : update.name <;> simp_all [returnsNew,isFDStateCreatorName,
      isFDArrayFDStateSyscall]
  · rcases (duplicatedFDsFromView_eq_some hdup).1 with hdup | ⟨hfcntl,_⟩ <;>
      cases hname : update.name <;> simp_all [isDuplicatedFDStateSyscall,
        isFDArrayFDStateSyscall,isFcntlFDStateSyscall]
  · exact hpair.2

/-- A created descriptor that is not one of a pair is returned. -/
theorem Creates.eq_fdRet (h : Creates update n)
    (harray : isFDArrayFDStateSyscall update.name=false) : n=fdRet update.source.view := by
  obtain ⟨_,_,_,hnew | ⟨old,hdup,_⟩ | hpair⟩ := h
  · exact hnew.2
  · exact (duplicatedFDsFromView_eq_some hdup).2.2
  · rw [hpair.1] at harray
    exact Bool.noConfusion harray

/-- A descriptor control that creates a descriptor duplicates. -/
theorem Creates.duplicates (h : Creates update n)
    (hname : isDuplicatedFDStateSyscall update.name=true ∨ isFcntlFDStateSyscall update.name=true) :
    ∃ old, duplicatedFDsFromView update.source.view update.name=some (old,n) ∧ old≠n := by
  obtain ⟨_,_,_,hnew | hdup | hpair⟩ := h
  · cases hname' : update.name <;> simp_all [returnsNew,isFDStateCreatorName,
      isDuplicatedFDStateSyscall,isFcntlFDStateSyscall]
  · exact hdup
  · cases hname' : update.name <;> simp_all [isFDArrayFDStateSyscall,
      isDuplicatedFDStateSyscall,isFcntlFDStateSyscall]

/-- A created descriptor is a copy only of another one. -/
theorem Creates.old_ne (h : Creates update n) {old new : Int32}
    (hdup : duplicatedFDsFromView update.source.view update.name=some (old,new)) : old≠n := by
  obtain ⟨hname,rfl,rfl⟩ := duplicatedFDsFromView_eq_some hdup
  obtain ⟨other,hother,hne⟩ := h.duplicates (hname.imp_right And.left)
  rw [(duplicatedFDsFromView_eq_some hother).2.1] at hne
  exact hne

/-- A descriptor control that creates a descriptor has a duplicating command. -/
theorem Creates.command (h : Creates update n) (hname : isFcntlFDStateSyscall update.name=true) :
    isFcntlFDStateCommand update.source.view.args=true := by
  obtain ⟨old,hdup,_⟩ := h.duplicates (Or.inr hname)
  rcases (duplicatedFDsFromView_eq_some hdup).1 with hdup | hfcntl
  · cases hname' : update.name <;> simp_all [isDuplicatedFDStateSyscall,isFcntlFDStateSyscall]
  · exact hfcntl.2

/-- No step on the paths reads the number of a created descriptor. -/
theorem pathWriters_ignore (h : Creates update n) :
    ∀ writer∈pathWriters update, Ignores (.fd n) writer := by
  obtain ⟨hopen,hbind,hgetsockname,hchdir,hfchdir,hread,hwrite,-⟩ := h.name_ne
  intro writer hwriter
  simp only [pathWriters,List.mem_cons,List.not_mem_nil,or_false] at hwriter
  rcases hwriter with rfl | rfl | rfl | rfl | rfl | rfl | rfl | rfl | rfl | rfl | rfl | rfl
  · exact ignores_const _
  · intro r r' hr
    unfold overlayCwdWrites
    rw [hr .cwd (by simp)]
  · exact ignores_const _
  · intro r r' _
    simp only [updateOpenedPathFDMapFromView,openedPathStateTarget,hopen,ne_eq,not_false_eq_true,
      or_true,if_true]
  · intro r r' hr
    unfold updateDupFDMapFromSource
    cases hdup : duplicatedFDsFromView update.source.view update.name with
    | none => rfl
    | some pair =>
      have hold := h.old_ne hdup
      dsimp only
      rw [hr (.fd pair.1) (by simpa using hold)]
  · exact ignores_const _
  · exact ignores_const _
  · intro r r' _
    simp [updateNetlinkFDMap,hbind,hgetsockname]
  · exact ignores_const _
  · intro r r' _
    simp [updateCwdFDMapFromView,hchdir,hfchdir]
  · exact ignores_const _
  · intro r r' _
    simp [updateEventFDCountFromSource,hread,hwrite]

/-- Which opens return a new descriptor. -/
theorem opened_of_returnsNew (h : returnsNew update.name=true)
    (hsocket : update.name≠.socket) (hcreator : isFDStateCreatorName update.name=false) :
    isOpenedPathFDStateSyscall update.name=true := by
  cases hname : update.name <;> simp_all [returnsNew,isFDStateCreatorName,
    isOpenedPathFDStateSyscall]

/-- Every anonymous creator has a policy. -/
theorem fdCreatorPolicyFor_isSome {name : SyscallName} :
    (fdCreatorPolicyFor name).isSome=isFDStateCreatorName name := by
  cases name <;> rfl

/-- A created descriptor's path is written, if the path of an open is known. -/
theorem pathWriters_touch (h : Creates update n)
    (hcovers : Covers update.order.paths update.resolved.paths)
    (hpath : isOpenedPathFDStateSyscall update.name=true → update.resolved.paths.lookup n≠none ∨
      isPathText update.pathText=true ∧ unquotedPath update.pathText≠"") :
    ∃ writer∈pathWriters update, ∀ r, Touches (.fd n) (writer r) := by
  have hopenTree := h.name_ne.1
  obtain ⟨hvalid,_,hret,hnew | ⟨old,hdup,hne⟩ | ⟨harray,hzero,pair,hpair,hn⟩⟩ := h
  · have hpositive : ¬update.source.view.ret < 0 := Int64.not_lt.mpr hret
    obtain ⟨hnew,rfl⟩ := hnew
    by_cases hsocket : update.name=.socket
    · refine ⟨fun _ => updateSocketFDMapFromSource update,by simp [pathWriters],fun r => ?_⟩
      simp [updateSocketFDMapFromSource,hvalid,hsocket,hpositive]
    · cases hcreator : isFDStateCreatorName update.name with
      | true =>
        refine ⟨fun _ => updateFdReturnMapFromSource update,by simp [pathWriters],fun r => ?_⟩
        rw [←fdCreatorPolicyFor_isSome] at hcreator
        obtain ⟨policy,hpolicy⟩ := Option.isSome_iff_exists.mp hcreator
        simp only [updateFdReturnMapFromSource,hvalid,hpositive,hpolicy]
        split_ifs <;> simp_all
      | false =>
        rcases hpath (opened_of_returnsNew hnew hsocket hcreator) with hoverlay | htext
        · exact ⟨fun _ => overlayPathWrites update,by simp [pathWriters],
            fun r => (touches_mapWrites hcovers _).mpr hoverlay⟩
        · refine ⟨updateOpenedPathFDMapFromView update,by simp [pathWriters],fun r => ?_⟩
          have hopened := opened_of_returnsNew hnew hsocket hcreator
          have htarget : openedPathStateTarget update r=unquotedPath update.pathText := by
            simp [openedPathStateTarget,htext.1,hopenTree]
          simp [updateOpenedPathFDMapFromView,hvalid,hpositive,hopened,htarget,htext.2]
  · refine ⟨updateDupFDMapFromSource update,by simp [pathWriters],fun r => ?_⟩
    simp [updateDupFDMapFromSource,hdup,hne]
  · by_cases hsocketpair : update.name=.socketpair
    · refine ⟨fun _ => updateSocketpairFDMap update,by simp [pathWriters],fun r => ?_⟩
      simp only [fdArrayArgIndex,hsocketpair,if_true] at hpair
      simp only [updateSocketpairFDMap,hvalid,hsocketpair,hzero,pairWrites,hpair]
      simp [eq_comm,hn]
    · refine ⟨fun _ => updatePipeFDMapFromPayload update,by simp [pathWriters],fun r => ?_⟩
      have hpipe : update.name=.pipe ∨ update.name=.pipe2 := by
        cases hname : update.name <;> simp_all [isFDArrayFDStateSyscall]
      simp only [fdArrayArgIndex,hsocketpair,if_false] at hpair
      simp only [updatePipeFDMapFromPayload,hvalid,hzero,pairWrites,hpair]
      rcases hpipe with hname | hname <;> simp [hname,eq_comm,hn]

/-- Whether a syscall makes or names a pipe or a socket. -/
def namesPipeOrSocket : SyscallName → Bool
  | .pipe | .pipe2 | .socketpair | .bind | .getsockname | .socket => true
  | _ => false

/-- Whether a syscall changes a directory or an event counter. -/
def movesDirectoryOrCounter : SyscallName → Bool
  | .chdir | .fchdir | .eventfd | .eventfd2 | .read | .write => true
  | _ => false

/-- Other syscalls write no path of an anonymous or an opened descriptor. -/
theorem createdWrites_nil (hcreator : isFDStateCreatorName update.name=false)
    (hopened : isOpenedPathFDStateSyscall update.name=false) (r : Reader String) :
    updateFdReturnMapFromSource update=[] ∧ updateOpenedPathFDMapFromView update r=[] := by
  rw [←fdCreatorPolicyFor_isSome,Option.isSome_eq_false_iff,Option.isNone_iff_eq_none] at hcreator
  unfold updateFdReturnMapFromSource updateOpenedPathFDMapFromView
  rw [hcreator,hopened]
  exact ⟨ite_self _,if_pos (Or.inr (Or.inr rfl))⟩

/-- Other syscalls write no path of a pipe or a socket. -/
theorem pipeAndSocketWrites_nil (h : namesPipeOrSocket update.name=false) (r : Reader String) :
    updatePipeFDMapFromPayload update=[] ∧ updateSocketpairFDMap update=[] ∧
      updateNetlinkFDMap update r=[] ∧ updateSocketFDMapFromSource update=[] := by
  have hne : ∀ name, namesPipeOrSocket name=true → update.name≠name := by
    rintro name hname rfl
    exact Bool.noConfusion (h.symm.trans hname)
  have hpipe := hne .pipe rfl
  have hpipe2 := hne .pipe2 rfl
  have hbind := hne .bind rfl
  have hgetsockname := hne .getsockname rfl
  refine ⟨if_pos ?_,if_pos ?_,if_pos ?_,if_pos ?_⟩
  · exact Or.inr (Or.inr ⟨hpipe,hpipe2⟩)
  · exact Or.inr (Or.inl (hne .socketpair rfl))
  · exact Or.inr (Or.inr ⟨hbind,hgetsockname⟩)
  · exact Or.inr (Or.inl (hne .socket rfl))

/-- Other syscalls write no directory and no event counter. -/
theorem directoryAndCounterWrites_nil (h : movesDirectoryOrCounter update.name=false)
    (r : Reader String) :
    updateCwdFDMapFromView update r=[] ∧ updateEventFDMapFromSource update=[] ∧
      updateEventFDCountFromSource update r=[] := by
  have hne : ∀ name, movesDirectoryOrCounter name=true → update.name≠name := by
    rintro name hname rfl
    exact Bool.noConfusion (h.symm.trans hname)
  refine ⟨?_,if_pos ?_,if_pos ?_⟩
  · unfold updateCwdFDMapFromView
    rw [if_neg (hne .chdir rfl),if_neg (hne .fchdir rfl),ite_self]
  · exact Or.inr (Or.inr ⟨hne .eventfd rfl,hne .eventfd2 rfl⟩)
  · exact Or.inr (Or.inr ⟨hne .read rfl,hne .write rfl⟩)

/-- The path of an open that was not captured is not written. -/
theorem pathWriters_leave (h : Creates update n)
    (hcovers : Covers update.order.paths update.resolved.paths)
    (hopened : isOpenedPathFDStateSyscall update.name=true)
    (hoverlay : update.resolved.paths.lookup n=none)
    (htext : ¬(isPathText update.pathText=true ∧ unquotedPath update.pathText≠"")) :
    ∀ writer∈pathWriters update, ∀ r, ¬Touches (.fd n) (writer r) := by
  have hnames : update.name=.«open» ∨ update.name=.openat ∨ update.name=.openat2 ∨
      update.name=.creat := by
    have hopenTree := h.name_ne.1
    cases hname : update.name <;> simp_all [isOpenedPathFDStateSyscall]
  have htarget : ∀ r, openedPathStateTarget update r="" := by
    intro r
    simp only [openedPathStateTarget,h.name_ne.1,ne_eq,not_false_eq_true,or_true,if_true]
    split_ifs with hpathText
    · rfl
    · by_contra hne
      exact htext ⟨by simpa using hpathText,hne⟩
  have hdup : duplicatedFDsFromView update.source.view update.name=none := by
    rcases hnames with hname | hname | hname | hname <;>
      simp [duplicatedFDsFromView,hname,isDuplicatedFDStateSyscall,isFcntlFDStateSyscall]
  have hpolicy : fdCreatorPolicyFor update.name=none := by
    rcases hnames with hname | hname | hname | hname <;> rw [hname] <;> rfl
  have hkind : namesPipeOrSocket update.name=false ∧ movesDirectoryOrCounter update.name=false := by
    rcases hnames with hname | hname | hname | hname <;> rw [hname] <;> exact ⟨rfl,rfl⟩
  intro writer hwriter r
  obtain ⟨hpipe,hsocketpair,hnetlink,hsocket⟩ := pipeAndSocketWrites_nil hkind.1 r
  obtain ⟨hcwd,heventfd,hcount⟩ := directoryAndCounterWrites_nil hkind.2 r
  simp only [pathWriters,List.mem_cons,List.not_mem_nil,or_false] at hwriter
  rcases hwriter with rfl | rfl | rfl | rfl | rfl | rfl | rfl | rfl | rfl | rfl | rfl | rfl
  · rw [overlayPathWrites,touches_mapWrites hcovers]
    simp [hoverlay]
  · unfold overlayCwdWrites
    split_ifs <;> simp
  · simp [updateFdReturnMapFromSource,hpolicy]
  · simp [updateOpenedPathFDMapFromView,htarget]
  · simp [updateDupFDMapFromSource,hdup]
  · simp [hpipe]
  · simp [hsocketpair]
  · simp [hnetlink]
  · simp [hsocket]
  · simp [hcwd]
  · simp [heventfd]
  · simp [hcount]

/-- An event has a snapshot of a descriptor exactly if one of its sections does. -/
theorem hasFDStateSnapshotForFD_iff (src : FDStateSource) (fd : Int32) :
    hasFDStateSnapshotForFD src fd=true ↔
      ∃ observation∈sectionObservations src, observation.fd=fd := by
  unfold hasFDStateSnapshotForFD snapshotForFD sectionObservations
  rw [List.findSome?_isSome_iff]
  constructor
  · rintro ⟨s,hs,hsome⟩
    obtain ⟨observation,hobservation⟩ := Option.isSome_iff_exists.mp hsome
    rw [Option.filter_eq_some_iff] at hobservation
    exact ⟨observation,List.mem_filterMap.mpr ⟨s,hs,hobservation.1⟩,by simpa using hobservation.2⟩
  · rintro ⟨observation,hmem,hfd⟩
    obtain ⟨s,hs,hobservation⟩ := List.mem_filterMap.mp hmem
    exact ⟨s,hs,by simp [hobservation,hfd,Option.filter]⟩

/-- A pair's syscall replaces no snapshot by itself. -/
theorem fdStateTargetReplaced_array {view : SyscallEventView} {name : SyscallName}
    (h : isFDArrayFDStateSyscall name=true) : fdStateTargetReplaced view name=false := by
  cases name <;> simp_all [isFDArrayFDStateSyscall,fdStateTargetReplaced,
    isOpenedPathFDStateSyscall,isFDStateCreatorName,isFcntlFDStateSyscall]

/-- When a created descriptor's snapshot is written. -/
theorem touches_observation (h : Creates update n)
    (hcovers : Covers update.order.states update.resolved.states) :
    Touches (.fd n) (mapWrites update.order.states update.resolved.states ++
        updateFDStateObservationFromSource update.source update.name) ↔
      fdStateTargetReplaced update.source.view update.name=true ∨
        hasFDStateSnapshotForFD update.source n=true ∨ update.resolved.states.lookup n≠none := by
  have hsyscall : isFDStateObservationSyscall update.name=true := by
    have hkind := h.kind
    cases hname : update.name <;> simp_all [returnsNew,isFDStateObservationSyscall,
      isOpenedPathFDStateSyscall,isFDStateCreatorName,isDuplicatedFDStateSyscall,
      isFDArrayFDStateSyscall,isFcntlFDStateSyscall]
  have hcommand : ¬(isFcntlFDStateSyscall update.name=true ∧
      isFcntlFDStateCommand update.source.view.args=false) := by
    rintro ⟨hfcntl,hcommand⟩
    rw [h.command hfcntl] at hcommand
    exact Bool.noConfusion hcommand
  have hwrites : Touches (.fd n) (updateFDStateObservationFromSource update.source update.name) ↔
      fdStateTargetReplaced update.source.view update.name=true ∨
        hasFDStateSnapshotForFD update.source n=true := by
    unfold updateFDStateObservationFromSource
    rw [if_neg (by simp [h.1,Int64.not_lt.mpr h.2.2.1,hsyscall]),if_neg hcommand]
    cases harray : isFDArrayFDStateSyscall update.name with
    | true =>
      have hzero := (h.pair harray).1
      rw [if_pos rfl,if_neg (by simp [hzero]),fdStateTargetReplaced_array harray,
        hasFDStateSnapshotForFD_iff]
      simp [Touches,updateFDArrayStateObservations]
    | false =>
      rw [if_neg (by simp),h.eq_fdRet harray,touches_append]
      apply or_congr
      · split_ifs with hreplaced <;> simp [hreplaced]
      · unfold hasFDStateSnapshotForFD
        cases snapshotForFD update.source (fdRet update.source.view) <;> simp
  rw [touches_append,touches_mapWrites hcovers,hwrites]
  tauto

theorem touches_replaceFDCloexec (pid : ℤ) (fd : Int32) (state : Option Bool) :
    Touches (.fd n) (replaceFDCloexec pid fd state) ↔ 0 < pid ∧ 0 ≤ fd ∧ fd=n := by
  unfold replaceFDCloexec
  split_ifs with hguard
  · rcases hguard with hpid | hfd
    · simp [Int.not_lt.mpr hpid]
    · simp [Int32.not_le.mpr hfd]
  · rw [not_or,Int.not_le,Int32.not_lt] at hguard
    simp [hguard]

/-- Only a signal descriptor that already existed keeps its close-on-exec bit. -/
theorem policy_cloexec_eq_none {name : SyscallName} {policy : FDStateSource → FDCreatorState}
    (h : fdCreatorPolicyFor name=some policy) (src : FDStateSource) :
    (policy src).cloexec=none ↔
      (name=.signalfd ∨ name=.signalfd4) ∧ fdArg src.view.args[0]≠-1 := by
  cases name <;> simp only [fdCreatorPolicyFor,reduceCtorEq,Option.some.injEq] at h <;> subst h <;>
    simp [signalfdPolicy,simpleFDCreatorPolicy,pidfdCreatorPolicy]

/-- Close-on-exec bit of an anonymous descriptor. -/
theorem touches_cloexec_creator {policy : FDStateSource → FDCreatorState} (h : Creates update n)
    (hpolicy : fdCreatorPolicyFor update.name=some policy) :
    Touches (.fd n) (updateFDCloexecFromSource update.source update.name update.targetPID) ↔
      0 < update.targetPID ∧ 0 ≤ n ∧
        ¬((update.name=.signalfd ∨ update.name=.signalfd4) ∧
          fdArg update.source.view.args[0]≠-1 ∧
          hasFDStateSnapshotForFD update.source n=true) := by
  have hcreator : isFDStateCreatorName update.name=true := by
    rw [←fdCreatorPolicyFor_isSome,hpolicy]
    rfl
  have harray : isFDArrayFDStateSyscall update.name=false := by
    cases hname : update.name <;> simp_all [isFDStateCreatorName,isFDArrayFDStateSyscall]
  have hnone := policy_cloexec_eq_none hpolicy update.source
  obtain rfl := h.eq_fdRet harray
  unfold updateFDCloexecFromSource
  rw [if_neg (by simp [h.1,Int64.not_lt.mpr h.2.2.1]),hpolicy]
  dsimp only
  cases hsnapshot : hasFDStateSnapshotForFD update.source (fdRet update.source.view) with
  | false => simp [touches_replaceFDCloexec]
  | true =>
    rw [if_neg (by simp)]
    cases hcloexec : (policy update.source).cloexec with
    | none => simp [hnone.mp hcloexec]
    | some cloexec =>
      have hkept : ¬((update.name=.signalfd ∨ update.name=.signalfd4) ∧
          fdArg update.source.view.args[0]≠-1) := by
        intro hsignal
        rw [hnone.mpr hsignal] at hcloexec
        simp at hcloexec
      rw [touches_replaceFDCloexec]
      constructor
      · rintro ⟨hpid,hfd,-⟩
        exact ⟨hpid,hfd,fun hsignal => hkept ⟨hsignal.1,hsignal.2.1⟩⟩
      · rintro ⟨hpid,hfd,-⟩
        exact ⟨hpid,hfd,rfl⟩

/-- A syscall of a class is not one outside it. -/
theorem ne_of_class {p : SyscallName → Bool} {name outside : SyscallName} (h : p name=true)
    (houtside : p outside=false) : name≠outside := by
  rintro rfl
  rw [h] at houtside
  exact Bool.noConfusion houtside

/-- Close-on-exec bit of a descriptor that is not anonymous. -/
theorem touches_cloexec_other (h : Creates update n)
    (hpolicy : fdCreatorPolicyFor update.name=none) :
    Touches (.fd n) (updateFDCloexecFromSource update.source update.name update.targetPID) ↔
      0 < update.targetPID ∧ 0 ≤ n ∧ update.name≠.socket := by
  have hdup : isDuplicatedFDStateSyscall update.name=true ∨
      isFcntlFDStateSyscall update.name=true →
      (Touches (.fd n) (updateDuplicatedFDCloexec update.name update.source.view
        update.targetPID) ↔ 0 < update.targetPID ∧ 0 ≤ n ∧ n=n) := by
    intro hname
    obtain ⟨old,hdup,hne⟩ := h.duplicates hname
    unfold updateDuplicatedFDCloexec
    rw [hdup]
    dsimp only
    rw [if_neg hne,touches_replaceFDCloexec]
  have hkind := h.kind
  unfold updateFDCloexecFromSource
  rw [if_neg (by simp [h.1,Int64.not_lt.mpr h.2.2.1]),hpolicy]
  dsimp only
  by_cases hopened : isOpenedPathFDStateSyscall update.name=true
  · have harray : isFDArrayFDStateSyscall update.name=false := by
      cases hname : update.name <;> simp_all [isOpenedPathFDStateSyscall,isFDArrayFDStateSyscall]
    have hsocket : update.name≠.socket := ne_of_class hopened rfl
    rw [if_pos hopened,touches_replaceFDCloexec,h.eq_fdRet harray]
    simp [hsocket]
  rw [if_neg hopened]
  by_cases hduplicated : isDuplicatedFDStateSyscall update.name=true
  · have hsocket : update.name≠.socket := ne_of_class hduplicated rfl
    rw [if_pos hduplicated,hdup (Or.inl hduplicated)]
    simp [hsocket]
  rw [if_neg hduplicated]
  by_cases hfcntl : isFcntlFDStateSyscall update.name=true
  · have hsocket : update.name≠.socket := ne_of_class hfcntl rfl
    have hsetfd : ¬(update.source.view.args[1].toUInt32=2 ∧ update.source.view.ret=0) := by
      rintro ⟨hcommand,-⟩
      have := h.command hfcntl
      simp [isFcntlFDStateCommand,hcommand] at this
    rw [if_pos hfcntl]
    unfold updateFcntlFDCloexec
    rw [if_neg hsetfd,hdup (Or.inr hfcntl)]
    simp [hsocket]
  rw [if_neg hfcntl]
  by_cases harray : isFDArrayFDStateSyscall update.name=true
  · have hsocket : update.name≠.socket := ne_of_class harray rfl
    obtain ⟨-,⟨first,second⟩,hpair,hn⟩ := h.pair harray
    rw [if_pos harray]
    unfold updateArrayFDCloexec
    rw [hpair]
    dsimp only
    rw [touches_append,touches_replaceFDCloexec,touches_replaceFDCloexec]
    constructor
    · rintro (⟨hpid,hfd,rfl⟩ | ⟨hpid,hfd,rfl⟩) <;> exact ⟨hpid,hfd,hsocket⟩
    · rintro ⟨hpid,hfd,-⟩
      rcases hn with rfl | rfl
      · exact Or.inl ⟨hpid,hfd,rfl⟩
      · exact Or.inr ⟨hpid,hfd,rfl⟩
  · have hsocket : update.name=.socket := by
      cases hname : update.name <;> simp_all [returnsNew,isFDStateCreatorName,
        isOpenedPathFDStateSyscall,isDuplicatedFDStateSyscall,isFcntlFDStateSyscall,
        isFDArrayFDStateSyscall,fdCreatorPolicyFor]
    rw [if_neg harray]
    simp [hsocket]

/-- When a created descriptor's close-on-exec bit is written. -/
theorem touches_cloexec (h : Creates update n) :
    Touches (.fd n) (updateFDCloexecFromSource update.source update.name update.targetPID) ↔
      0 < update.targetPID ∧ 0 ≤ n ∧ update.name≠.socket ∧
        ¬((update.name=.signalfd ∨ update.name=.signalfd4) ∧
          fdArg update.source.view.args[0]≠-1 ∧
          hasFDStateSnapshotForFD update.source n=true) := by
  cases hpolicy : fdCreatorPolicyFor update.name with
  | some policy =>
    have hsocket : update.name≠.socket := by
      intro hname
      rw [hname] at hpolicy
      simp [fdCreatorPolicyFor] at hpolicy
    rw [touches_cloexec_creator h hpolicy]
    simp [hsocket]
  | none =>
    have hsignal : ¬(update.name=.signalfd ∨ update.name=.signalfd4) := by
      rintro (hname | hname) <;> rw [hname] at hpolicy <;> simp [fdCreatorPolicyFor] at hpolicy
    rw [touches_cloexec_other h hpolicy]
    simp [hsignal]

/-- When a pair's offset is written with its snapshots. -/
theorem touches_arrayOffset (h : Creates update n) :
    Touches (.fd n) (updateFDStateOffsetsFromSource update.source update.name) ↔
      isFDArrayFDStateSyscall update.name=true ∧
        ∃ observation∈sectionObservations update.source,
          observation.fd=n ∧ hasOffset observation=true := by
  unfold updateFDStateOffsetsFromSource
  cases harray : isFDArrayFDStateSyscall update.name with
  | false => simp
  | true =>
    rw [if_neg (by simp [h.1,(h.pair harray).1])]
    simp [Touches,and_comm,and_assoc]

/-- Whether an event sets the offset of the descriptor it returns. -/
def setsOffset (update : FDStateUpdate) : Bool :=
  !isFDArrayFDStateSyscall update.name && update.name != .socket &&
    update.source.view.probeRetEnter != 3

/-- Setting the offset of a created descriptor writes it without reading it. -/
theorem updateOffsetsFromView_sets (h : Creates update n) (hsets : setsOffset update=true)
    (states : Reader FDStateObservation) :
    Ignores (.fd n) (updateOffsetsFromView update.name update.source.view states) ∧
      ∀ r, Touches (.fd n) (updateOffsetsFromView update.name update.source.view states r) := by
  simp only [setsOffset,Bool.and_eq_true,Bool.not_eq_true',bne_iff_ne] at hsets
  obtain ⟨⟨harray,hsocket⟩,hprobe⟩ := hsets
  have hguard : ¬(update.source.view.valid=false ∨ update.source.view.probeRetEnter=3 ∨
      update.source.view.ret < 0) := by simp [h.1,hprobe,Int64.not_lt.mpr h.2.2.1]
  have hn := h.eq_fdRet harray
  have hkind := h.kind
  unfold updateOffsetsFromView
  simp only [if_neg hguard]
  cases hcreator : isFDStateCreatorName update.name with
  | true =>
    refine ⟨fun r r' _ => rfl,fun r => ?_⟩
    cases (states (.fd (fdRet update.source.view))).filter hasOffset <;> simp [hn]
  | false =>
    cases hopened : isOpenedPathFDStateSyscall update.name with
    | true => exact ⟨fun r r' _ => rfl,fun r => by simp [hn]⟩
    | false =>
      have hdups : isDuplicatedFDStateSyscall update.name=true ∨
          isFcntlFDStateSyscall update.name=true := by
        cases hname : update.name <;> simp_all [returnsNew,isFDStateCreatorName,
          isOpenedPathFDStateSyscall,isDuplicatedFDStateSyscall,isFcntlFDStateSyscall,
          isFDArrayFDStateSyscall]
      obtain ⟨old,hdup,hne⟩ := h.duplicates hdups
      have hdups' : (isDuplicatedFDStateSyscall update.name ||
          isFcntlFDStateSyscall update.name)=true := by simpa using hdups
      simp only [hdups',hdup,Bool.false_eq_true,if_false,if_true]
      constructor
      · intro r r' hr
        dsimp only
        rw [hr (.fd old) (by simpa using hne)]
      · intro r
        simp [hne]

/-- Whether the record of an event has a table entry of its own name. -/
theorem syscallEventTraitsForView_eq {tables : SyscallTables}
    (hname : update.name=syscallName (tables.name update.source.view.sysID)) :
    syscallEventTraitsForView tables update.source.view update.name=
      syscallEventTraitsForName update.name := by
  unfold syscallEventTraitsForView syscallEventTraitsByID
  split_ifs
  · rfl
  · rw [hname]
  · rfl

/-- Effects of a creating syscall. -/
theorem traits_of_kind {name : SyscallName}
    (h : returnsNew name=true ∨ isDuplicatedFDStateSyscall name=true ∨
      isFcntlFDStateSyscall name=true ∨ isFDArrayFDStateSyscall name=true) :
    (syscallEventTraitsForName name).stateIo=false ∧
      (syscallEventTraitsForName name).state=!isFDArrayFDStateSyscall name ∧
      ((syscallEventTraitsForName name).creator || (syscallEventTraitsForName name).offset)=
        (!isFDArrayFDStateSyscall name && name != .socket) ∧
      (syscallEventTraitsForName name).offsetIo=false ∧
      (syscallEventTraitsForName name).close=false := by
  revert h
  cases name <;> decide

/-- The exit of a creating syscall is recorded. -/
theorem Creates.applies {tables : SyscallTables} (h : Creates update n)
    (hname : update.name=syscallName (tables.name update.source.view.sysID)) :
    shouldApplyFDStateEvent tables update.source.view update.name
      update.source.payloadSections=true := by
  obtain ⟨hstateIo,hstate,-⟩ := traits_of_kind h.kind
  unfold shouldApplyFDStateEvent
  rw [syscallEventTraitsForView_eq hname,hstateIo,hstate]
  cases harray : isFDArrayFDStateSyscall update.name with
  | true =>
    obtain ⟨-,pair,hpair,-⟩ := h.pair harray
    have hsections : update.source.payloadSections≠[] := by
      intro hnil
      rw [hnil] at hpair
      simp [fdArrayPayloadData] at hpair
    rw [if_pos hsections]
  | false => simp [h.1]

/-- The exit of a creating syscall sets an offset unless it creates a socket or a pair. -/
theorem Creates.moves {tables : SyscallTables} (h : Creates update n)
    (hname : update.name=syscallName (tables.name update.source.view.sysID)) :
    shouldApplyFDOffsetEvent tables update.source.view update.name=setsOffset update := by
  obtain ⟨-,-,hoffset,hoffsetIo,-⟩ := traits_of_kind h.kind
  unfold shouldApplyFDOffsetEvent setsOffset
  rw [syscallEventTraitsForView_eq hname,hoffsetIo,←hoffset]
  by_cases hprobe : update.source.view.probeRetEnter=3
  · simp [hprobe]
  · rw [if_neg (by simp [h.1,hprobe,Int64.not_lt.mpr h.2.2.1])]
    cases (syscallEventTraitsForName update.name).creator <;>
      cases (syscallEventTraitsForName update.name).offset <;> simp [hprobe]

/-- What the exit of a creating syscall does. -/
theorem exitUpdate_eq {tables : SyscallTables} (h : Creates update n)
    (hname : update.name=syscallName (tables.name update.source.view.sysID)) {st : FDStateStore}
    (htainted : st.tainted=false) (orders : LoopOrders) :
    exitUpdate tables st update orders=
      if setsOffset update then (st.recordFDState update).applyFDOffsets update.source.view
        update.name update.targetPID
      else st.recordFDState update := by
  have hclose : shouldCleanupClosedFDEvent tables update.source.view update.name=false := by
    unfold shouldCleanupClosedFDEvent
    rw [syscallEventTraitsForView_eq hname,(traits_of_kind h.kind).2.2.2.2]
    simp
  have hrecord : st.applyFDState tables update orders=st.recordFDState update := by
    unfold FDStateStore.applyFDState
    rw [if_neg (by simp [htainted,h.applies hname]),if_neg h.name_ne.2.2.2.2.2.2.2.2]
  unfold exitUpdate
  simp only [FDStateStore.cleanupClosedFD,hclose,if_true,h.moves hname,hrecord]

end Events

/-- Two stores differ at most in what they record for one descriptor. -/
structure SameElsewhere (s t : FDStateStore) (pid : ℤ) (n : Int32) : Prop where
  /-- The same mark. -/
  tainted : s.tainted=t.tainted
  /-- The same other paths. -/
  paths : AgreeExcept (slotKey pid (.fd n)) s.paths t.paths
  /-- The same other offsets. -/
  offsets : AgreeExcept (slotKey pid (.fd n)) s.offsets t.offsets
  /-- The same other snapshots. -/
  fdStates : AgreeExcept (slotKey pid (.fd n)) s.fdStates t.fdStates
  /-- The same other close-on-exec bits. -/
  fdCloexec : AgreeExcept (slotKey pid (.fd n)) s.fdCloexec t.fdCloexec

/-- Two stores give the same answers about a descriptor. -/
structure SameReads (s t : FDStateStore) (pid : ℤ) (n : Int32) : Prop where
  /-- The same records. -/
  entry : storeEntry s (pid,.fd n)=storeEntry t (pid,.fd n)
  /-- The same path. -/
  path : s.path pid n=t.path pid n
  /-- The same snapshot. -/
  observation : s.observation pid n=t.observation pid n
  /-- The same offset of a write. -/
  offset : ∀ view, fdArg view.args[0]=n →
    s.bufferFileOffsetFromView view .write pid=t.bufferFileOffsetFromView view .write pid

/-- After an exit, and after whatever follows it, the answers about the new descriptor do not depend
on what was recorded for its number before. -/
def ForgetsPrevious (tables : SyscallTables) (update : FDStateUpdate) (n : Int32) : Prop :=
  ∀ (s t : FDStateStore) (orders : LoopOrders) (later : List (FDStateOp×LoopOrders)),
    Cleared s → Cleared t → SameElsewhere s t update.targetPID n →
    SameReads ((exitUpdate tables s update orders).run tables later)
      ((exitUpdate tables t update orders).run tables later) update.targetPID n

section Main

variable {tables : SyscallTables} {update : FDStateUpdate} {n : Int32} {s t : FDStateStore}

theorem sameReads_refl (pid : ℤ) : SameReads s s pid n := ⟨rfl,rfl,rfl,fun _ _ => rfl⟩

/-- What an event that replaces everything records, but for the offsets of a descriptor that is
returned. -/
theorem recordFDState_congr (h : Creates update n)
    (hpaths : Covers update.order.paths update.resolved.paths)
    (hstates : Covers update.order.states update.resolved.states) (hreplaces : Replaces update n)
    (hsame : SameElsewhere s t update.targetPID n) :
    (s.recordFDState update).tainted=(t.recordFDState update).tainted ∧
      (s.recordFDState update).paths=(t.recordFDState update).paths ∧
      (s.recordFDState update).fdStates=(t.recordFDState update).fdStates ∧
      (s.recordFDState update).fdCloexec=(t.recordFDState update).fdCloexec ∧
      AgreeExcept (slotKey update.targetPID (.fd n)) (s.recordFDState update).offsets
        (t.recordFDState update).offsets := by
  refine ⟨hsame.tainted,?_,?_,?_,?_⟩
  · exact foldl_runWriter_eq (pathWriters_ignore h) (pathWriters_touch h hpaths hreplaces.path)
      hsame.paths
  · obtain ⟨w,hw,haddress⟩ := (touches_observation h hstates).mpr hreplaces.observation
    exact hsame.fdStates.applyWrites_eq ⟨w,hw,by rw [haddress]⟩
  · obtain ⟨w,hw,haddress⟩ := (touches_cloexec h).mpr hreplaces.cloexec
    exact hsame.fdCloexec.applyWrites_eq ⟨w,hw,by rw [haddress]⟩
  · exact hsame.offsets.applyWrites _

/-- An event that replaces everything leads to the same store. -/
theorem exitUpdate_congr (h : Creates update n)
    (hname : update.name=syscallName (tables.name update.source.view.sysID))
    (hpaths : Covers update.order.paths update.resolved.paths)
    (hstates : Covers update.order.states update.resolved.states) (hreplaces : Replaces update n)
    (htainted : s.tainted=false) (hsame : SameElsewhere s t update.targetPID n)
    (orders : LoopOrders) :
    exitUpdate tables s update orders=exitUpdate tables t update orders := by
  obtain ⟨ht,hp,hs,hc,ho⟩ := recordFDState_congr h hpaths hstates hreplaces hsame
  rw [exitUpdate_eq h hname htainted,exitUpdate_eq h hname (by rw [←hsame.tainted,htainted])]
  cases hsets : setsOffset update with
  | false =>
    have harray : isFDArrayFDStateSyscall update.name=true := by
      obtain ⟨hsocket,hoffset⟩ := hreplaces.offset
      by_contra harray
      rw [if_neg harray] at hoffset
      simp [setsOffset,harray,hsocket,hoffset] at hsets
    have hoffset := hreplaces.offset.2
    rw [if_pos harray] at hoffset
    obtain ⟨w,hw,haddress⟩ := (touches_arrayOffset h).mpr ⟨harray,hoffset⟩
    exact FDStateStore.ext ht hp (hsame.offsets.applyWrites_eq ⟨w,hw,by rw [haddress]⟩) hs hc
  | true =>
    obtain ⟨hignores,htouches⟩ := updateOffsetsFromView_sets h hsets
      fun slot => (s.recordFDState update).fdStates.lookup (slotKey update.targetPID slot)
    have huntainted : (s.recordFDState update).tainted=false := htainted
    have huntainted' : (t.recordFDState update).tainted=false := by rw [←ht,huntainted]
    simp only [if_true,FDStateStore.applyFDOffsets,huntainted,huntainted',Bool.false_eq_true,
      if_false]
    rw [←hs]
    exact FDStateStore.ext rfl hp (runWriter_eq ho hignores htouches) rfl hc

/-- Three of the maps after the exit of a creating syscall. -/
theorem exitUpdate_maps (h : Creates update n)
    (hname : update.name=syscallName (tables.name update.source.view.sysID))
    (htainted : s.tainted=false) (orders : LoopOrders) :
    (exitUpdate tables s update orders).paths=
        (pathWriters update).foldl (runWriter update.targetPID) s.paths ∧
      (exitUpdate tables s update orders).fdStates=
        applyWrites (slotKey update.targetPID) s.fdStates
          (mapWrites update.order.states update.resolved.states ++
            updateFDStateObservationFromSource update.source update.name) ∧
      (exitUpdate tables s update orders).fdCloexec=
        applyWrites (slotKey update.targetPID) s.fdCloexec
          (updateFDCloexecFromSource update.source update.name update.targetPID) := by
  rw [exitUpdate_eq h hname htainted]
  unfold FDStateStore.applyFDOffsets
  split_ifs <;> exact ⟨rfl,rfl,rfl⟩

/-- The offset of a created descriptor that the event does not set. -/
theorem exitUpdate_offset (h : Creates update n)
    (hname : update.name=syscallName (tables.name update.source.view.sysID))
    (htainted : s.tainted=false) (orders : LoopOrders) (hsets : setsOffset update=false)
    (harray : ¬Touches (.fd n) (updateFDStateOffsetsFromSource update.source update.name)) :
    (exitUpdate tables s update orders).offsets.lookup (slotKey update.targetPID (.fd n))=
      s.offsets.lookup (slotKey update.targetPID (.fd n)) := by
  rw [exitUpdate_eq h hname htainted,hsets]
  exact lookup_applyWrites_of_not_touches harray

/-- What is recorded after an exit that forgets, without and with a record left over. -/
theorem ForgetsPrevious.entry_eq (hforgets : ForgetsPrevious tables update n) {stale : FDStateStore}
    (htainted : stale.tainted=false) (hsame : SameElsewhere {} stale update.targetPID n) :
    storeEntry (exitUpdate tables {} update {}) (update.targetPID,.fd n)=
      storeEntry (exitUpdate tables stale update {}) (update.targetPID,.fd n) := by
  have hfresh : Cleared {} := fun htainted => Bool.noConfusion htainted
  have hstale : Cleared stale := by
    intro hmarked
    rw [htainted] at hmarked
    exact Bool.noConfusion hmarked
  exact (hforgets {} stale {} [] hfresh hstale hsame).entry

/-- A map without entries differs from one with an entry at most there. -/
theorem agreeExcept_insert {V : Type} (key : String) (v : V) :
    AgreeExcept key (∅ : GoMap String V) ((∅ : GoMap String V).insert key v) := by
  intro j hj
  rw [lookup_insert_ite,if_neg hj]

/-- A key whose entry two maps keep cannot be empty in one and filled in the other. -/
theorem absurd_of_kept {V : Type} (key : String) (v : V) {m m' : GoMap String V}
    (hm : m.lookup key=(∅ : GoMap String V).lookup key)
    (hm' : m'.lookup key=((∅ : GoMap String V).insert key v).lookup key)
    (h : m.lookup key=m'.lookup key) : False := by
  rw [hm,hm',lookup_insert_ite,if_pos rfl,Finmap.lookup_empty] at h
  exact Option.some_ne_none v h.symm

/-- An event that forgets the previous owner of a number replaces everything recorded for it. -/
theorem replaces_of_forgetsPrevious (h : Creates update n)
    (hname : update.name=syscallName (tables.name update.source.view.sysID))
    (hpaths : Covers update.order.paths update.resolved.paths)
    (hstates : Covers update.order.states update.resolved.states)
    (hforgets : ForgetsPrevious tables update n) : Replaces update n := by
  let key := slotKey update.targetPID (.fd n)
  have hmaps := fun (st : FDStateStore) (htainted : st.tainted=false) =>
    exitUpdate_maps h hname htainted {}
  constructor
  · intro hopened
    by_contra hmissing
    rw [not_or,not_not] at hmissing
    let stale : FDStateStore := {paths := (∅ : GoMap String String).insert key ""}
    have hleave := pathWriters_leave h hpaths hopened hmissing.1 hmissing.2
    have hsame : SameElsewhere {} stale update.targetPID n :=
      ⟨rfl,agreeExcept_insert key "",fun _ _ => rfl,fun _ _ => rfl,fun _ _ => rfl⟩
    refine absurd_of_kept key "" ?_ ?_ (congrArg FDEntry.path (hforgets.entry_eq rfl hsame))
    · rw [(hmaps {} rfl).1]
      exact lookup_foldl_runWriter hleave
    · rw [(hmaps stale rfl).1]
      exact lookup_foldl_runWriter hleave
  · by_contra hmissing
    rw [←touches_observation h hstates] at hmissing
    let observation : FDStateObservation := ⟨0,0,0,0,0,0,0⟩
    let stale : FDStateStore :=
      {fdStates := (∅ : GoMap String FDStateObservation).insert key observation}
    have hsame : SameElsewhere {} stale update.targetPID n :=
      ⟨rfl,fun _ _ => rfl,fun _ _ => rfl,agreeExcept_insert key observation,fun _ _ => rfl⟩
    refine absurd_of_kept key observation ?_ ?_
      (congrArg FDEntry.observation (hforgets.entry_eq rfl hsame))
    · rw [(hmaps {} rfl).2.1]
      exact lookup_applyWrites_of_not_touches hmissing
    · rw [(hmaps stale rfl).2.1]
      exact lookup_applyWrites_of_not_touches hmissing
  · by_contra hmissing
    rw [←touches_cloexec h] at hmissing
    let stale : FDStateStore := {fdCloexec := (∅ : GoMap String Bool).insert key true}
    have hsame : SameElsewhere {} stale update.targetPID n :=
      ⟨rfl,fun _ _ => rfl,fun _ _ => rfl,fun _ _ => rfl,agreeExcept_insert key true⟩
    refine absurd_of_kept key true ?_ ?_ (congrArg FDEntry.cloexec (hforgets.entry_eq rfl hsame))
    · rw [(hmaps {} rfl).2.2]
      exact lookup_applyWrites_of_not_touches hmissing
    · rw [(hmaps stale rfl).2.2]
      exact lookup_applyWrites_of_not_touches hmissing
  · by_contra hmissing
    let stale : FDStateStore := {offsets := (∅ : GoMap String Int64).insert key 0}
    have hsame : SameElsewhere {} stale update.targetPID n :=
      ⟨rfl,fun _ _ => rfl,agreeExcept_insert key 0,fun _ _ => rfl,fun _ _ => rfl⟩
    have hsets : setsOffset update=false := by
      by_contra hsets
      simp only [setsOffset,Bool.not_eq_false,Bool.and_eq_true,Bool.not_eq_true',
        bne_iff_ne] at hsets
      exact hmissing ⟨hsets.1.2,by rw [if_neg (by simp [hsets.1.1])]; exact hsets.2⟩
    have harray : ¬Touches (.fd n)
        (updateFDStateOffsetsFromSource update.source update.name) := by
      intro htouches
      obtain ⟨harray,hoffset⟩ := (touches_arrayOffset h).mp htouches
      exact hmissing ⟨ne_of_class harray rfl,by rw [if_pos harray]; exact hoffset⟩
    exact absurd_of_kept key 0 (exitUpdate_offset h hname rfl {} hsets harray)
      (exitUpdate_offset h hname rfl {} hsets harray)
      (congrArg FDEntry.offset (hforgets.entry_eq rfl hsame))

/-- The state of a new descriptor is independent of the previous owner of its number exactly if the
event replaces all four records of it. -/
theorem descriptor_reuse_iff (tables : SyscallTables) (update : FDStateUpdate) (n : Int32)
    (h : Creates update n)
    (hname : update.name=syscallName (tables.name update.source.view.sysID))
    (hpaths : Covers update.order.paths update.resolved.paths)
    (hstates : Covers update.order.states update.resolved.states) :
    ForgetsPrevious tables update n ↔ Replaces update n := by
  refine ⟨replaces_of_forgetsPrevious h hname hpaths hstates,?_⟩
  intro hreplaces s t orders later hs ht hsame
  have heq : exitUpdate tables s update orders=exitUpdate tables t update orders := by
    cases htainted : s.tainted with
    | true =>
      rw [hs htainted,ht (by rw [←hsame.tainted,htainted])]
    | false => exact exitUpdate_congr h hname hpaths hstates hreplaces htainted hsame orders
  rw [heq]
  exact sameReads_refl update.targetPID

end Main

section Samples

/-- Syscall table of the samples. -/
def sampleTables : SyscallTables :=
  ⟨fun id => if id=41 then "socket" else "open",fun _ => false,fun _ => false⟩

/-- Process 100 opens a file as descriptor three. -/
def openedFile : FDStateUpdate where
  source := {
    view := ({eventType := .exit, pid := 100, tid := 100, sysID := 2, ret := 3} :
      TraceEventEnvelope).syscallView
    payloadSections := []}
  name := .«open»
  pathText := "\"/x\""
  targetPID := 100

/-- An open whose path was captured forgets the previous owner of the number. -/
theorem descriptor_reuse_iff_open :
    Creates openedFile 3 ∧ ForgetsPrevious sampleTables openedFile 3 := by
  have hcreates : Creates openedFile 3 := ⟨rfl,rfl,by decide,Or.inl ⟨rfl,rfl⟩⟩
  refine ⟨hcreates,
    (descriptor_reuse_iff sampleTables openedFile 3 hcreates (by decide) ?_ ?_).mpr ?_⟩
  · exact fun k hk => absurd rfl hk
  · exact fun k hk => absurd rfl hk
  · exact ⟨fun _ => Or.inr ⟨by decide,by decide⟩,Or.inl rfl,by decide,by decide⟩

/-- Process 100 creates a socket as descriptor three. -/
def createdSocket : FDStateUpdate where
  source := {
    view := ({eventType := .exit, pid := 100, tid := 100, sysID := 41, ret := 3} :
      TraceEventEnvelope).syscallView
    payloadSections := []}
  name := .socket
  targetPID := 100

/-- A socket inherits the offset and the close-on-exec bit of the previous owner of its number. -/
theorem socket_keeps_previous :
    Creates createdSocket 3 ∧
      createdSocket.name=syscallName (sampleTables.name createdSocket.source.view.sysID) ∧
      ¬ForgetsPrevious sampleTables createdSocket 3 := by
  have hcreates : Creates createdSocket 3 := ⟨rfl,rfl,by decide,Or.inl ⟨rfl,rfl⟩⟩
  refine ⟨hcreates,by decide,fun hforgets => ?_⟩
  have hreplaces := replaces_of_forgetsPrevious hcreates (by decide)
    (fun k hk => absurd rfl hk) (fun k hk => absurd rfl hk) hforgets
  exact hreplaces.offset.1 rfl

end Samples

end StraceGo.FDStateReuse

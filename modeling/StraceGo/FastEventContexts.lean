import StraceGo.FDStateCloseRange
import StraceGo.SyscallEventContexts

/-!
# The short branch of the event contexts

The short branch leaves out the path arguments, the descriptors that the event
names and those at the return. Without captured memory the first two have
nothing to tell, and of the third only a duplication over another descriptor
has: the long branch hands the snapshot of the old descriptor on to the new
number, where the records have just dropped what they held. So the two
branches agree unless a device would be shown there.
-/

namespace StraceGo.FastEventContexts

open EventEnvelope FiniteMaps EventTaskLifecycle GoText Utf8Text KeyedMaps FDStateEvents FDState
open FDStateReuse FDStateCloseRange StringRendering DescriptorPaths TextLines
open SyscallEventContexts TextFastLines
open PathSelection hiding eventFDViewFromSections
open JsonSyscallEncoder hiding PayloadSection isFcntlFDStateCommand isFcntlFDStateSyscall

section NoPayload

variable (view : SyscallEventView)

/-- Without captured memory an event names no descriptors. -/
theorem eventFDViewFromSections_nil (order : OverlayOrder) :
    eventFDViewFromSections view [] order={} := by
  have hresolved : FDStateUpdate.resolved
      {source := ⟨view,[]⟩, name := .other, targetPID := 0, order := order}={} :=
    resolved_of_no_sections rfl
  unfold FDStateUpdate.resolved at hresolved
  unfold eventFDViewFromSections
  rw [hresolved]
  rfl

/-- Without captured memory the mask of a signal descriptor is not known. -/
theorem signalfdReturnFDView_nil (eventView : EventFDView) (name : String) :
    signalfdReturnFDView eventView name view []=(eventView,false) := by
  have hmask : ∀ flagsArg, (signalfdPolicy flagsArg ⟨view,[]⟩).path=none := by
    intro flagsArg
    unfold signalfdPolicy signalfdMaskFromSource
    dsimp only
    by_cases hlength : view.args[2]≠8
    · rw [if_pos hlength]
      rfl
    · rw [if_neg hlength]
      rfl
  unfold signalfdReturnFDView
  by_cases hfailed : view.eventType≠.exit ∨ view.ret < 0
  · rw [if_pos hfailed]
  · rw [if_neg hfailed]
    by_cases hname : name="signalfd"
    · subst hname
      have hpolicy : fdCreatorPolicyFor (syscallName "signalfd")=some (signalfdPolicy none) := rfl
      rw [if_neg (by decide),hpolicy]
      dsimp only
      rw [hmask]
    · by_cases hname4 : name="signalfd4"
      · subst hname4
        have hpolicy : fdCreatorPolicyFor (syscallName "signalfd4")=
            some (signalfdPolicy (some 3)) := rfl
        rw [if_neg (by decide),hpolicy]
        dsimp only
        rw [hmask]
      · rw [if_pos ⟨hname,hname4⟩]

/-- Without captured memory a path argument has no text of a path. -/
theorem isPathText_primaryPathText_nil (d : Decoder) (scMeta : SyscallMeta) :
    isPathText (primaryPathText (decodePathArguments d scMeta ⟨view,[]⟩))=false := by
  have hargument : ∀ argIndex, isPathText (pathArgumentText d ⟨view,[]⟩ argIndex)=false := by
    intro argIndex
    have hnone : stringPayloadSection [] argIndex=none := rfl
    have hbytes : decodedBytes [] (-1) 0=none := rfl
    unfold pathArgumentText
    rw [hnone]
    unfold Decoder.decodeString
    dsimp only
    by_cases hnull : argument view.args argIndex=0
    · rw [if_pos hnull]
      rfl
    · rw [if_neg hnull,hbytes]
      have hhex : hasPrefix ("0x" ++ hex (argument view.args argIndex).toNat) "0x"=true := by
        simp [hasPrefix]
      unfold isPathText
      simp [hhex]
  unfold decodePathArguments
  cases pathArgumentIndices scMeta view.args with
  | nil => rfl
  | cons index indices => exact hargument index

/-- What a record writes to the paths does not depend on a text that is no path. -/
theorem pathWriters_of_not_isPathText {update : FDStateUpdate} {text : String}
    (hold : isPathText update.pathText=false) (hnew : isPathText text=false) :
    pathWriters {update with pathText := text}=pathWriters update := by
  have hopened : updateOpenedPathFDMapFromView {update with pathText := text}=
      updateOpenedPathFDMapFromView update := by
    funext read
    have htarget : openedPathStateTarget {update with pathText := text} read="" := by
      unfold openedPathStateTarget
      rw [if_pos hnew]
    have htarget' : openedPathStateTarget update read="" := by
      unfold openedPathStateTarget
      rw [if_pos hold]
    unfold updateOpenedPathFDMapFromView
    rw [htarget,htarget']
  have hcwd : updateCwdFDMapFromView {update with pathText := text}=
      updateCwdFDMapFromView update := by
    funext read
    unfold updateCwdFDMapFromView
    dsimp only
    rw [if_pos hnew,if_pos hold]
  unfold pathWriters
  rw [hopened,hcwd]
  rfl

/-- What a record leaves does not depend on a text that is no path. -/
theorem applyFDState_of_not_isPathText (tables : SyscallTables) (st : FDStateStore)
    (orders : LoopOrders) {update : FDStateUpdate} {text : String}
    (hold : isPathText update.pathText=false) (hnew : isPathText text=false) :
    st.applyFDState tables {update with pathText := text} orders=
      st.applyFDState tables update orders := by
  have hrecord : st.recordFDState {update with pathText := text}=st.recordFDState update := by
    unfold FDStateStore.recordFDState
    rw [pathWriters_of_not_isPathText hold hnew]
    rfl
  unfold FDStateStore.applyFDState
  rw [hrecord]

end NoPayload

section Branches

variable {deps : Deps} {st : FDStateStore} {order : OverlayOrder} {view : SyscallEventView}
  {statePID : ℤ} {pendingEnter : Option PendingSyscallSnapshot}
  {currentPayload : List PayloadSection}

/-- What the guard of the short branch checks. -/
structure Guard (view : SyscallEventView) (pendingEnter : Option PendingSyscallSnapshot)
    (currentPayload : List PayloadSection) (filter : Option TraceFilter) : Prop where
  /-- The record is a proper one. -/
  valid : view.valid=true
  /-- The exit has no captured memory. -/
  current : currentPayload=[]
  /-- Neither has the enter. -/
  pending : ∀ pending∈pendingEnter, pending.payloadSections=[]
  /-- Nothing is filtered. -/
  filter : ∀ filter'∈filter, filter'.isUnfiltered=true

theorem guard_of_canUseFastSyscallEventContext {filter : Option TraceFilter}
    (h : canUseFastSyscallEventContext view pendingEnter currentPayload filter=true) :
    Guard view pendingEnter currentPayload filter := by
  unfold canUseFastSyscallEventContext at h
  by_cases hfirst : view.valid=false ∨ currentPayload≠[]
  · rw [if_pos hfirst] at h
    exact absurd h Bool.false_ne_true
  · rw [if_neg hfirst] at h
    rw [not_or,Bool.not_eq_false,not_not] at hfirst
    by_cases hpending : (pendingEnter.any fun pending => !pending.payloadSections.isEmpty)=true
    · rw [if_pos hpending] at h
      exact absurd h Bool.false_ne_true
    · rw [if_neg hpending] at h
      refine ⟨hfirst.1,hfirst.2,?_,?_⟩
      · intro pending hmem
        obtain rfl := hmem
        simpa using hpending
      · intro filter' hmem
        obtain rfl := hmem
        exact h

/-- Without captured memory the long branch merges none. -/
theorem mergePendingPayloadSections_of_guard
    (h : Guard view pendingEnter currentPayload deps.filter) :
    mergePendingPayloadSections pendingEnter currentPayload=(pendingEnter,[]) := by
  rw [h.current]
  cases hpending : pendingEnter with
  | none => rfl
  | some pending =>
    unfold mergePendingPayloadSections
    dsimp only
    rw [if_pos (h.pending pending hpending)]

/-- Where nothing is filtered, everything is shown. -/
theorem shouldPrintOf_of_guard (h : Guard view pendingEnter currentPayload deps.filter)
    (scMeta : SyscallMeta) (pathArguments : List PathArgument) (eventView : EventFDView)
    (sections : List PayloadSection) :
    shouldPrintOf deps st view statePID scMeta pathArguments eventView sections=true := by
  unfold shouldPrintOf
  cases hfilter : deps.filter with
  | none => rfl
  | some filter =>
    dsimp only
    rw [if_pos (h.filter filter hfilter)]

/-- Descriptors at the return of an event without captured memory. -/
def returned (deps : Deps) (st : FDStateStore) (view : SyscallEventView) (statePID : ℤ) :
    EventFDView×Bool :=
  dupReturnFDView {} (deps.tables.name view.sysID) view (if deps.fdState then some st else none)
    statePID

/-- Path arguments of an event without captured memory. -/
def emptyPathArguments (deps : Deps) (view : SyscallEventView) : List PathArgument :=
  decodePathArguments deps.decoder (syscallMeta deps view.sysID).toSyscallMeta ⟨view,[]⟩

/-- A context with what the short branch leaves out. -/
def withReturn (ev : SyscallEventContext) (pathArguments : List PathArgument)
    (returned : EventFDView×Bool) : SyscallEventContext :=
  {ev with
    pathText := primaryPathText pathArguments
    pathArguments := pathArguments
    returnFDView := returned.1
    hasReturnFDView := returned.2}

/-- What a handler receives does not depend on what the short branch leaves out. -/
theorem withHandlerContext_withReturn (ev : SyscallEventContext)
    (pathArguments : List PathArgument) (returned : EventFDView×Bool) :
    withHandlerContext deps (withReturn ev pathArguments returned)=
      withReturn (withHandlerContext deps ev) pathArguments returned := by
  have hbuild : shouldBuildHandlerContext deps (withReturn ev pathArguments returned)=
      shouldBuildHandlerContext deps ev := rfl
  unfold withHandlerContext
  rw [hbuild]
  by_cases hneeded : shouldBuildHandlerContext deps ev=true
  · rw [if_pos hneeded,if_pos hneeded]
    rfl
  · rw [if_neg hneeded,if_neg hneeded]

/-- Under its guard the long branch adds the path arguments and the descriptors at the return. -/
theorem fullSyscallEventContext_eq (h : Guard view pendingEnter currentPayload deps.filter) :
    fullSyscallEventContext deps st order view statePID pendingEnter currentPayload=
      withReturn (fastSyscallEventContext deps view statePID pendingEnter)
        (emptyPathArguments deps view) (returned deps st view statePID) := by
  have hname : (lookupSyscallMetadataWithTraits deps view).1=syscallMeta deps view.sysID := by
    unfold lookupSyscallMetadataWithTraits
    dsimp only
    split_ifs <;> rfl
  have hreturned : returnFDViewOf deps st view statePID {} (deps.tables.name view.sysID) []=
      returned deps st view statePID := by
    unfold returnFDViewOf
    rw [signalfdReturnFDView_nil]
    rfl
  unfold fullSyscallEventContext fastSyscallEventContext
  rw [mergePendingPayloadSections_of_guard h,←withHandlerContext_withReturn]
  dsimp only
  rw [eventFDViewFromSections_nil,shouldPrintOf_of_guard h,hname]
  have hreturned' : returnFDViewOf deps st view statePID {} (syscallMeta deps view.sysID).name []=
      returned deps st view statePID := hreturned
  rw [hreturned']
  rfl

/-- The context of the short branch before it gets that of its handler. -/
def baseContext (deps : Deps) (view : SyscallEventView) (statePID : ℤ)
    (pendingEnter : Option PendingSyscallSnapshot) : SyscallEventContext where
  view := view
  statePID := statePID
  scMeta := (lookupSyscallMetadataWithTraits deps view).1
  traits := (lookupSyscallMetadataWithTraits deps view).2.1
  traitsBound := (lookupSyscallMetadataWithTraits deps view).2.2
  fdFlags := deps.catalog
  filter := deps.filter
  shouldPrint := true
  pendingEnter := pendingEnter

/-- The short branch adds nothing but the context of the handler. -/
theorem fastSyscallEventContext_eq :
    fastSyscallEventContext deps view statePID pendingEnter=
      {baseContext deps view statePID pendingEnter with
        handlerContext :=
          (fastSyscallEventContext deps view statePID pendingEnter).handlerContext} := by
  have hbase : fastSyscallEventContext deps view statePID pendingEnter=
      withHandlerContext deps (baseContext deps view statePID pendingEnter) := rfl
  rw [hbase]
  unfold withHandlerContext
  split_ifs <;> rfl

/-- The handler receives what the context holds. -/
theorem handlerContext_fastSyscallEventContext {ctx : HandlerContext}
    (h : (fastSyscallEventContext deps view statePID pendingEnter).handlerContext=some ctx) :
    ctx=newHandlerContext deps (baseContext deps view statePID pendingEnter) := by
  have hbase : fastSyscallEventContext deps view statePID pendingEnter=
      withHandlerContext deps (baseContext deps view statePID pendingEnter) := rfl
  rw [hbase] at h
  unfold withHandlerContext at h
  split_ifs at h
  · exact (Option.some.inj h).symm
  · exact absurd h.symm (Option.some_ne_none ctx)

theorem scMeta_baseContext (deps : Deps) (view : SyscallEventView) (statePID : ℤ)
    (pendingEnter : Option PendingSyscallSnapshot) :
    (baseContext deps view statePID pendingEnter).scMeta=syscallMeta deps view.sysID := by
  unfold baseContext lookupSyscallMetadataWithTraits
  dsimp only
  split_ifs <;> rfl

theorem traitsForView_eq (tables : SyscallTables) (view : SyscallEventView) :
    traitsForView tables view (tables.name view.sysID)=
      traitsForName (tables.name view.sysID) := by
  unfold traitsForView traitsByID
  split_ifs <;> rfl

/-- The effects of an event are those of its name in the tables. -/
theorem eventTraits_fastSyscallEventContext (hname : deps.tables.name view.sysID≠"") :
    (fastSyscallEventContext deps view statePID pendingEnter).eventTraits deps=
      traitsForName (deps.tables.name view.sysID) := by
  have hmeta : (baseContext deps view statePID pendingEnter).scMeta=
      syscallMeta deps view.sysID := scMeta_baseContext deps view statePID pendingEnter
  have hbound : (baseContext deps view statePID pendingEnter).traitsBound=true →
      (baseContext deps view statePID pendingEnter).traits=
        traitsForName (deps.tables.name view.sysID) := by
    unfold baseContext lookupSyscallMetadataWithTraits
    dsimp only
    split_ifs
    · exact fun _ => rfl
    · exact fun hbound => hbound.elim
  rw [fastSyscallEventContext_eq]
  unfold SyscallEventContext.eventTraits
  dsimp only
  rw [hmeta]
  by_cases htable : (baseContext deps view statePID pendingEnter).traitsBound=true
  · rw [if_pos htable]
    exact hbound htable
  · have hown : (syscallMeta deps view.sysID).name≠"" := hname
    rw [if_neg htable,if_neg hown]
    split_ifs
    · rfl
    · exact traitsForView_eq deps.tables view

/-- What the short branch gives to every context. -/
structure Plain (deps : Deps) (record : SyscallEventView) (pid : ℤ)
    (ev : SyscallEventContext) : Prop where
  /-- The record. -/
  view : ev.view=record
  /-- The process. -/
  statePID : ev.statePID=pid
  /-- The description of the tables. -/
  scMeta : ev.scMeta=syscallMeta deps record.sysID
  /-- No text of a path. -/
  pathText : ev.pathText=""
  /-- No captured memory. -/
  payloadSections : ev.payloadSections=[]
  /-- The event is shown. -/
  shouldPrint : ev.shouldPrint=true
  /-- No descriptors at the return. -/
  hasReturnFDView : ev.hasReturnFDView=false

theorem plain_fastSyscallEventContext :
    Plain deps view statePID (fastSyscallEventContext deps view statePID pendingEnter) := by
  have hbase : fastSyscallEventContext deps view statePID pendingEnter=
      withHandlerContext deps (baseContext deps view statePID pendingEnter) := rfl
  rw [hbase]
  unfold withHandlerContext
  split_ifs <;>
    exact ⟨rfl,rfl,scMeta_baseContext deps view statePID pendingEnter,rfl,rfl,rfl,rfl⟩

/-- Both branches leave the same records. -/
theorem update_withReturn {ev : SyscallEventContext} (htext : ev.pathText="")
    (order : OverlayOrder) (orders : LoopOrders) (returned : EventFDView×Bool) :
    update deps st (withReturn ev (emptyPathArguments deps view) returned) order orders=
      update deps st ev order orders := by
  have hupdates : (withReturn ev (emptyPathArguments deps view) returned).shouldUpdateFDState deps=
      ev.shouldUpdateFDState deps := rfl
  have hold : isPathText (fdStateUpdate ev order).pathText=false := by
    have hpath : (fdStateUpdate ev order).pathText=ev.pathText := rfl
    rw [hpath,htext]
    rfl
  have happly := applyFDState_of_not_isPathText deps.tables st orders hold
    (isPathText_primaryPathText_nil view deps.decoder (syscallMeta deps view.sysID).toSyscallMeta)
  unfold SyscallEventContexts.update
  rw [hupdates]
  by_cases hrecords : ev.shouldUpdateFDState deps=true
  · rw [if_pos hrecords,if_pos hrecords]
    exact happly
  · rw [if_neg hrecords,if_neg hrecords]

end Branches

section Returns

variable {V : Type} {texts : Texts V} {name : Bytes} {ret : Int64} {res : Result}
  {ctx : Context V}

/-- The text of a return value depends on the descriptors of the event only where it is that of a
descriptor. -/
theorem formatSyscallRet_eventFDView {eventFDView : Option V}
    (h : 0 ≤ ret → showsReturnPath name (some ctx)=true →
      texts.formatFdWithPath {ctx with eventFDView := eventFDView} ret.toInt32=
        texts.formatFdWithPath ctx ret.toInt32) :
    formatSyscallRet texts name ret res (some {ctx with eventFDView := eventFDView})=
      formatSyscallRet texts name ret res (some ctx) := by
  have hshows : showsReturnPath name (some {ctx with eventFDView := eventFDView})=
      showsReturnPath name (some ctx) := rfl
  unfold formatSyscallRet
  dsimp only
  rw [hshows]
  by_cases hpath : 0 ≤ ret ∧ showsReturnPath name (some ctx)=true
  · rw [if_pos hpath,if_pos hpath,h hpath.1 hpath.2]
  · rw [if_neg hpath,if_neg hpath]

/-- The return value of a duplication over another descriptor is shown as a descriptor. -/
theorem formatSyscallRet_duplicated (hname : name=ascii "dup2" ∨ name=ascii "dup3")
    (hret : 0 ≤ ret) (hshow : ctx.showPaths=some true) :
    formatSyscallRet texts name ret {} (some ctx)=
      texts.formatFdWithPath ctx ret.toInt32 := by
  have hpath : showsReturnPath name (some ctx)=true := by
    unfold showsReturnPath
    dsimp only
    rw [hshow]
    rcases hname with rfl | rfl <;> rfl
  have hnonneg : ¬ret < 0 := by
    rw [Int64.not_lt]
    exact hret
  unfold formatSyscallRet
  dsimp only
  rw [if_pos (⟨hret,hpath⟩ : 0 ≤ ret ∧ showsReturnPath name (some ctx)=true)]
  rcases hname with rfl | rfl <;>
    rw [if_neg (by decide),if_neg (by decide),if_neg (fun h => hnonneg h.1),
      if_neg (fun h => absurd h.2 (by decide)),if_neg (fun h => absurd h.2 (by decide)),
      if_neg (fun h => absurd h.2 (by decide)),if_neg (fun h => absurd h.2.1 (by decide))]

end Returns

section Duplicates

variable {pid : ℤ} {update : FDStateUpdate}

/-- A duplication without captured memory writes one path. -/
theorem pathWriters_duplicated (hsections : update.source.payloadSections=[])
    (hname : update.name=.dup2 ∨ update.name=.dup3) (m : GoMap String String) :
    (pathWriters update).foldl (runWriter pid) m=
      runWriter pid m (updateDupFDMapFromSource update) := by
  have hkind : isFDStateCreatorName update.name=false ∧
      isOpenedPathFDStateSyscall update.name=false ∧ namesPipeOrSocket update.name=false ∧
      movesDirectoryOrCounter update.name=false := by
    rcases hname with hname | hname <;> rw [hname] <;> exact ⟨rfl,rfl,rfl,rfl⟩
  have hbefore : ∀ writer∈[fun _ => overlayPathWrites update,overlayCwdWrites update,
      fun _ => updateFdReturnMapFromSource update,updateOpenedPathFDMapFromView update],
      ∀ r, writer r=[] := by
    intro writer hwriter r
    obtain ⟨hcreated,hopened⟩ := createdWrites_nil hkind.1 hkind.2.1 r
    simp only [List.mem_cons,List.not_mem_nil,or_false] at hwriter
    rcases hwriter with rfl | rfl | rfl | rfl
    · simp only [overlayPathWrites,resolved_of_no_sections hsections,mapWrites_empty]
    · simp [overlayCwdWrites,hsections,fdPathOverlayFromSections]
    · exact hcreated
    · exact hopened
  have hafter : ∀ writer∈[fun _ => updatePipeFDMapFromPayload update,
      fun _ => updateSocketpairFDMap update,updateNetlinkFDMap update,
      fun _ => updateSocketFDMapFromSource update,updateCwdFDMapFromView update,
      fun _ => updateEventFDMapFromSource update,updateEventFDCountFromSource update],
      ∀ r, writer r=[] := by
    intro writer hwriter r
    obtain ⟨hpipe,hsocketpair,hnetlink,hsocket⟩ := pipeAndSocketWrites_nil hkind.2.2.1 r
    obtain ⟨hcwd,heventfd,hcount⟩ := directoryAndCounterWrites_nil hkind.2.2.2 r
    simp only [List.mem_cons,List.not_mem_nil,or_false] at hwriter
    rcases hwriter with rfl | rfl | rfl | rfl | rfl | rfl | rfl
    · exact hpipe
    · exact hsocketpair
    · exact hnetlink
    · exact hsocket
    · exact hcwd
    · exact heventfd
    · exact hcount
  have hall : pathWriters update=
      [fun _ => overlayPathWrites update,overlayCwdWrites update,
        fun _ => updateFdReturnMapFromSource update,updateOpenedPathFDMapFromView update] ++
      updateDupFDMapFromSource update::[fun _ => updatePipeFDMapFromPayload update,
        fun _ => updateSocketpairFDMap update,updateNetlinkFDMap update,
        fun _ => updateSocketFDMapFromSource update,updateCwdFDMapFromView update,
        fun _ => updateEventFDMapFromSource update,updateEventFDCountFromSource update] := rfl
  rw [hall,List.foldl_append,foldl_runWriter_of_nil hbefore,List.foldl_cons,
    foldl_runWriter_of_nil hafter]

/-- A duplication over another descriptor. -/
structure Duplication (update : FDStateUpdate) : Prop where
  /-- No memory was captured. -/
  sections : update.source.payloadSections=[]
  /-- The syscall. -/
  name : update.name=.dup2 ∨ update.name=.dup3
  /-- The record is a proper one. -/
  valid : update.source.view.valid=true
  /-- It succeeded. -/
  ret : 0 ≤ update.source.view.ret
  /-- The descriptors differ. -/
  differ : fdArg update.source.view.args[0]≠fdRet update.source.view

theorem Duplication.duplicatedFDs (h : Duplication update) :
    duplicatedFDsFromView update.source.view update.name=
      some (fdArg update.source.view.args[0],fdRet update.source.view) := by
  have hproper : ¬(update.source.view.valid=false ∨ update.source.view.ret < 0) := by
    rw [h.valid,not_or,Int64.not_lt]
    exact ⟨fun hvalid => absurd hvalid.symm Bool.false_ne_true,h.ret⟩
  unfold duplicatedFDsFromView
  rw [if_neg hproper]
  rcases h.name with hname | hname <;> rw [hname] <;> rfl

variable {st : FDStateStore}

/-- A store that tells a path has not lost its history. -/
theorem tainted_of_path {path : String} {fd : Int32} (hpath : st.path pid fd=some path) :
    st.tainted=false := by
  unfold FDStateStore.path at hpath
  by_contra htainted
  rw [Bool.not_eq_false] at htainted
  rw [if_pos htainted] at hpath
  exact absurd hpath.symm (Option.some_ne_none path)

/-- The new descriptor has the path of the old one. -/
theorem Duplication.path (h : Duplication update) {path : String}
    (hpath : st.path update.targetPID (fdArg update.source.view.args[0])=some path) :
    (st.recordFDState update).path update.targetPID (fdRet update.source.view)=some path := by
  have htainted := tainted_of_path hpath
  have huntainted : ¬st.tainted=true := by
    rw [htainted]
    exact Bool.false_ne_true
  have hold : st.paths.lookup (slotKey update.targetPID
      (.fd (fdArg update.source.view.args[0])))=some path := by
    unfold FDStateStore.path at hpath
    rwa [if_neg huntainted] at hpath
  have hcontrol : (isFcntlFDStateSyscall update.name &&
      !hasFDStateSnapshotForFD update.source (fdRet update.source.view))=false := by
    rcases h.name with hname | hname <;> rw [hname] <;> rfl
  have hwrites : updateDupFDMapFromSource update
      (fun slot => st.paths.lookup (slotKey update.targetPID slot))=
      [forget (fdRet update.source.view),remember (fdRet update.source.view) path] := by
    unfold updateDupFDMapFromSource
    rw [h.duplicatedFDs]
    dsimp only
    rw [if_pos h.differ,hcontrol,if_neg Bool.false_ne_true,hold]
    rfl
  unfold FDStateStore.path FDStateStore.recordFDState
  dsimp only
  rw [if_neg huntainted,pathWriters_duplicated h.sections h.name]
  unfold runWriter
  rw [hwrites,applyWrites_cons,applyWrites_cons,applyWrites_nil,lookup_apply]
  exact if_pos rfl

/-- The new descriptor has no snapshot, if the syscall replaces one. -/
theorem Duplication.observation (h : Duplication update) (htainted : st.tainted=false) (q : ℤ) :
    (st.recordFDState update).observation q (fdRet update.source.view)=
      if q=update.targetPID ∧ fdStateTargetReplaced update.source.view update.name=true then none
      else st.observation q (fdRet update.source.view) := by
  have hproper : ¬(update.source.view.valid=false ∨ update.source.view.ret < 0 ∨
      isFDStateObservationSyscall update.name=false) := by
    rw [h.valid,not_or,not_or,Int64.not_lt]
    refine ⟨fun hvalid => absurd hvalid.symm Bool.false_ne_true,h.ret,?_⟩
    rcases h.name with hname | hname <;> rw [hname] <;> decide
  have hcontrol : ¬(isFcntlFDStateSyscall update.name=true ∧
      isFcntlFDStateCommand update.source.view.args=false) := by
    rcases h.name with hname | hname <;> rw [hname] <;>
      exact fun hcontrol => Bool.false_ne_true hcontrol.1
  have harray : isFDArrayFDStateSyscall update.name=false := by
    rcases h.name with hname | hname <;> rw [hname] <;> rfl
  have hsnapshot : snapshotForFD update.source (fdRet update.source.view)=none := by
    unfold snapshotForFD
    rw [h.sections]
    rfl
  have hwrites : updateFDStateObservationFromSource update.source update.name=
      if fdStateTargetReplaced update.source.view update.name=true then
        [forget (fdRet update.source.view)] else [] := by
    unfold updateFDStateObservationFromSource
    rw [if_neg hproper,if_neg hcontrol,harray,if_neg Bool.false_ne_true,hsnapshot]
    exact List.append_nil _
  have huntainted : ¬st.tainted=true := by
    rw [htainted]
    exact Bool.false_ne_true
  unfold FDStateStore.observation FDStateStore.recordFDState
  dsimp only
  rw [if_neg huntainted,if_neg huntainted,resolved_of_no_sections h.sections,mapWrites_empty,
    hwrites,List.nil_append]
  by_cases hreplaced : fdStateTargetReplaced update.source.view update.name=true
  · rw [if_pos hreplaced,applyWrites_cons,applyWrites_nil,lookup_apply]
    by_cases hpid : q=update.targetPID
    · have hboth : q=update.targetPID ∧
          fdStateTargetReplaced update.source.view update.name=true := ⟨hpid,hreplaced⟩
      rw [if_pos hboth,hpid]
      exact if_pos rfl
    · have hboth : ¬(q=update.targetPID ∧
          fdStateTargetReplaced update.source.view update.name=true) := fun hboth => hpid hboth.1
      have hkey : slotKey q (.fd (fdRet update.source.view))≠
          slotKey update.targetPID (.fd (fdRet update.source.view)) := by
        intro hkey
        have htext : FDStateKeys.keyText (q,.fd (fdRet update.source.view))=
            FDStateKeys.keyText (update.targetPID,.fd (fdRet update.source.view)) := hkey
        exact hpid (congrArg Prod.fst (FDStateKeys.keyText_injective htext))
      rw [if_neg hboth]
      exact if_neg hkey
  · rw [if_neg hreplaced,if_neg (fun hboth => hreplaced hboth.2)]
    rfl

end Duplicates

section Lines

variable {V : Type} {texts : Texts V} {ev : SyscallEvent V} {shown : V} {has : Bool}

/-- An event with other descriptors at the return. -/
def withShown (ev : SyscallEvent V) (shown : V) (has : Bool) : SyscallEvent V :=
  {ev with returnFDView := shown, hasReturnFDView := has}

/-- Without descriptors at the return, the return value is formatted in the handler's context. -/
theorem formatting_of_not_has {ev : SyscallEvent V} (h : ev.hasReturnFDView=false) :
    ev.handlerContextForFormatting texts=ev.handlerContext := by
  unfold EventContext.handlerContextForFormatting
  rw [h]
  cases ev.handlerContext with
  | none => rfl
  | some ctx => rfl

/-- With some, it is formatted with these. -/
theorem formatting_of_has {ev : SyscallEvent V} (h : ev.hasReturnFDView=true) {ctx : Context V}
    (hctx : ev.handlerContext=some ctx) (hview : texts.emptyView ev.returnFDView=false) :
    ev.handlerContextForFormatting texts=
      some {ctx with eventFDView := some ev.returnFDView} := by
  unfold EventContext.handlerContextForFormatting
  rw [hctx,h,hview]
  rfl

/-- What is shown of a return value does not depend on the descriptors at the return. -/
theorem showsReturnPath_formatting (name : Bytes) (ev : SyscallEvent V) :
    showsReturnPath name (ev.handlerContextForFormatting texts)=
      showsReturnPath name ev.handlerContext := by
  unfold EventContext.handlerContextForFormatting
  cases ev.handlerContext with
  | none => rfl
  | some ctx =>
    dsimp only
    split_ifs <;> rfl

/-- Neither does the comment on a process number. -/
theorem pidNamespaceReturnComment_formatting (name : Bytes) (ret : Int64) (ev : SyscallEvent V) :
    pidNamespaceReturnComment name ret (ev.handlerContextForFormatting texts)=
      pidNamespaceReturnComment name ret ev.handlerContext := by
  unfold EventContext.handlerContextForFormatting
  cases ev.handlerContext with
  | none => rfl
  | some ctx =>
    dsimp only
    split_ifs <;> rfl

/-- Two sets of descriptors at the return give the same text of the return value. -/
def SameReturn (texts : Texts V) (ev : SyscallEvent V) (shown : V) (has : Bool) (res : Result) :
    Prop :=
  formatSyscallRet texts ev.syscallName ev.view.ret res
      ((withShown ev shown has).handlerContextForFormatting texts)=
    formatSyscallRet texts ev.syscallName ev.view.ret res (ev.handlerContextForFormatting texts)

/-- Lines of text agree where the texts of the return value do. -/
theorem SameReturn.printSyscallEvent {res : Result} (h : SameReturn texts ev shown has res)
    (r : TextRenderer) :
    printSyscallEvent texts r (withShown ev shown has) res=
      TextFastLines.printSyscallEvent texts r ev res := by
  have hreturn : ∀ r : TextRenderer, r.returnText texts (withShown ev shown has) res=
      r.returnText texts ev res := by
    intro r
    have hname : (withShown ev shown has).effectiveSyscallName=ev.effectiveSyscallName := rfl
    have hview : (withShown ev shown has).view=ev.view := rfl
    have hcontext : (withShown ev shown has).handlerContext=ev.handlerContext := rfl
    unfold SameReturn at h
    rw [←effectiveSyscallName_eq] at h
    unfold TextRenderer.returnText
    dsimp only
    rw [pidNamespaceReturnComment_formatting,pidNamespaceReturnComment_formatting,hname,hview,
      hcontext,h]
  have hprinted : ∀ (r : TextRenderer) (text : Bytes),
      r.printReturned (withShown ev shown has) res text=r.printReturned ev res text :=
    fun _ _ => rfl
  have hfast : ∀ r : TextRenderer, writePlainSyscallFast r (withShown ev shown has) res=
      writePlainSyscallFast r ev res := fun _ => rfl
  have hready : (r.observeTaskComm (withShown ev shown has)).selectOutputPID
      (withShown ev shown has).view.tid.toNat=
      (r.observeTaskComm ev).selectOutputPID ev.view.tid.toNat := rfl
  unfold TextFastLines.printSyscallEvent TextRenderer.printSyscallGeneral
  dsimp only
  rw [hready,hfast,hreturn,hprinted]

/-- The line of decided fields depends on the context of the return value through its text. -/
theorem appendJSONSyscallWireEvent_context (dst : Bytes) (event : JsonSyscallWireEvent V)
    {context : Option (Context V)}
    (h : ∀ dst, appendJSONSyscallReturn texts dst event.returnTextName event.returnTextRet
      event.returnTextResult context=appendJSONSyscallReturn texts dst event.returnTextName
        event.returnTextRet event.returnTextResult event.returnTextContext) :
    appendJSONSyscallWireEvent texts dst {event with returnTextContext := context}=
      appendJSONSyscallWireEvent texts dst event := by
  have hreturn : ∀ dst,
      appendJSONSyscallWireReturn texts dst {event with returnTextContext := context}=
        appendJSONSyscallWireReturn texts dst event := by
    intro dst
    unfold appendJSONSyscallWireReturn
    dsimp only
    rw [h]
  unfold appendJSONSyscallWireEvent
  dsimp only
  rw [hreturn]
  rfl

/-- So do the lines of decoded events. -/
theorem SameReturn.appendJSONDecodedSyscallEvent {res : Result}
    (h : SameReturn texts ev shown has res) (dst : Bytes) :
    appendJSONDecodedSyscallEvent texts dst (withShown ev shown has).toEventContext res=
      JsonSyscallEncoder.appendJSONDecodedSyscallEvent texts dst ev.toEventContext res := by
  have hplain : canAppendPlainSyscallReturn ev.syscallName ev.view.ret res
      ((withShown ev shown has).handlerContextForFormatting texts)=
      canAppendPlainSyscallReturn ev.syscallName ev.view.ret res
        (ev.handlerContextForFormatting texts) := by
    unfold canAppendPlainSyscallReturn
    rw [showsReturnPath_formatting,showsReturnPath_formatting]
    rfl
  have hreturn : ∀ dst, appendJSONSyscallReturn texts dst ev.syscallName ev.view.ret res
      ((withShown ev shown has).handlerContextForFormatting texts)=
      appendJSONSyscallReturn texts dst ev.syscallName ev.view.ret res
        (ev.handlerContextForFormatting texts) := by
    intro dst
    unfold SameReturn at h
    unfold appendJSONSyscallReturn
    rw [hplain,h]
  have hwire := appendJSONSyscallWireEvent_context dst
    (decodedWireEvent texts ev.toEventContext res) hreturn
  have hplainLine : canUsePlainDecodedJSON (withShown ev shown has).toEventContext res=
      canUsePlainDecodedJSON ev.toEventContext res := rfl
  unfold JsonSyscallEncoder.appendJSONDecodedSyscallEvent
  rw [hplainLine]
  by_cases hshort : canUsePlainDecodedJSON ev.toEventContext res=true
  · rw [if_pos hshort,if_pos hshort]
    rfl
  · rw [if_neg hshort,if_neg hshort]
    exact hwire

theorem follows_syscallLine (r : TextRenderer) (ev : SyscallEvent V) (linePrefix args : Bytes) :
    Follows r (r.syscallLine ev linePrefix args).2 := by
  have hasked := follows_consumeSuspended r ev.view.tid.toNat
  unfold TextRenderer.syscallLine
  dsimp only
  by_cases hprinted : ev.unfinishedPrinted=true
  · rw [if_pos hprinted]
    exact ⟨rfl,rfl,rfl,rfl⟩
  · rw [if_neg hprinted]
    generalize r.consumeSuspended ev.view.tid.toNat=answer at hasked
    obtain ⟨resumed,r'⟩ := answer
    cases resumed with
    | true =>
      dsimp only
      split_ifs <;> exact hasked
    | false => exact hasked

/-- A line tells the text of its return value. -/
theorem printReturned_injective {r : TextRenderer} {out : Output} (hout : r.out=some out)
    (hstack : r.options.stackTrace=false) {res : Result} (hdump : res.hexDumpStr=[])
    {s t : Bytes} (h : (r.printReturned ev res s).out=(r.printReturned ev res t).out) : s=t := by
  have hquiet : ∀ (r' : TextRenderer) (snapshot : TraceStackSnapshot),
      r'.options.stackTrace=false → r'.printStackTrace snapshot=r' := by
    intro r' snapshot hquiet
    unfold TextRenderer.printStackTrace
    cases r'.resolver with
    | none => rfl
    | some resolve => exact if_pos (Or.inl hquiet)
  unfold TextRenderer.printReturned at h
  dsimp only at h
  generalize hasked : r.syscallLine ev _ _=asked at h
  have hfollows : Follows r (asked.2.timePrefix ev.view.enterTime).2 := by
    rw [←hasked]
    exact (follows_syscallLine r ev _ _).trans (follows_timePrefix _ _)
  generalize asked.2.timePrefix ev.view.enterTime=timed at h hfollows
  rw [if_pos hdump,if_pos hdump] at h
  have hoptions : timed.2.options.stackTrace=false := by
    rw [hfollows.options]
    exact hstack
  have hwrite : ∀ (text : Bytes) (snapshot : TraceStackSnapshot),
      (timed.2.write text).printStackTrace snapshot=timed.2.write text :=
    fun text snapshot => hquiet (timed.2.write text) snapshot hoptions
  rw [hwrite,hwrite] at h
  have hwritten := hfollows.out.trans hout
  unfold TextRenderer.write at h
  dsimp only at h
  rw [hwritten] at h
  have hbytes := congrArg Output.written (Option.some.inj h)
  unfold Output.write at hbytes
  dsimp only at hbytes
  have hmapped := List.append_cancel_left hbytes
  have hinjective : Function.Injective fun b : UInt8 => (out.selected,b) :=
    fun _ _ hsame => congrArg Prod.snd hsame
  have htexts := List.map_injective_iff.mpr hinjective hmapped
  exact List.append_cancel_left (List.append_cancel_right (List.append_cancel_right htexts))

end Lines

section Agreement

variable (deps : Deps) (st : FDStateStore)

/-- A duplication over another descriptor whose path is recorded. -/
structure DuplicatesPath (record : SyscallEventView) (pid : ℤ) (target : String) : Prop where
  /-- The syscall. -/
  name : deps.tables.name record.sysID="dup2" ∨ deps.tables.name record.sysID="dup3"
  /-- The record is that of an exit. -/
  eventType : record.eventType=.exit
  /-- It succeeded. -/
  ret : 0 ≤ record.ret
  /-- The descriptors differ. -/
  differ : fdArg record.args[0]≠fdRet record
  /-- There are records of descriptors. -/
  records : deps.fdState=true
  /-- The path of the old descriptor. -/
  path : st.path pid (fdArg record.args[0])=some target
  /-- It is not empty. -/
  nonempty : target≠""

variable (view : SyscallEventView) (statePID : ℤ)

/-- Snapshot of a process for the new descriptor once it was duplicated over. -/
def keptObservation (pid : ℤ) : Option FDStateObservation :=
  if pid=statePID ∧
      fdStateTargetReplaced view (syscallName (deps.tables.name view.sysID))=true then none
  else st.observation pid (fdRet view)

/-- Snapshot that the records still have for the new descriptor. -/
def leftover : Option FDStateObservation :=
  (keptObservation deps st view statePID statePID).or
    (keptObservation deps st view statePID view.pid.toNat)

/-- The device of the old descriptor would be shown, and the records do not have it for the new
one. -/
def LosesDevice : Prop :=
  ∃ target opts observation, DuplicatesPath deps st view statePID target ∧
    deps.handlerOpts=some opts ∧ opts.showPaths=true ∧ ShowsDevice opts (unquotePath target) ∧
    st.observation statePID (fdArg view.args[0])=some observation ∧
    deviceOf observation≠(leftover deps st view statePID).bind deviceOf

variable (ports : Ports) (order : OverlayOrder) (orders : LoopOrders)

/-- Two contexts of an event agree: on what is shown, on what the handler receives and returns, on
the records, and on every line that is written. -/
structure Agree (fast full : SyscallEventContext) : Prop where
  /-- Both are shown, or neither. -/
  shouldPrint : fast.shouldPrint=full.shouldPrint
  /-- Captured memory. -/
  payloadSections : fast.payloadSections=full.payloadSections
  /-- What the handler receives. -/
  handlerContext : fast.handlerContext=full.handlerContext
  /-- What the runner returns. -/
  handled : handle deps ports st fast=handle deps ports st full
  /-- The records after the update. -/
  updated : update deps st fast order orders=update deps st full order orders
  /-- The records once the event is finished. -/
  finalized : finalize deps (update deps st fast order orders) fast=
    finalize deps (update deps st full order orders) full
  /-- Lines of text. -/
  text : ∀ (r : TextRenderer) (res : Result),
    printSyscallEvent (textsOf ports (update deps st fast order orders) fast) r (rendered fast) res=
      printSyscallEvent (textsOf ports (update deps st full order orders) full) r
        (rendered full) res
  /-- Lines of text of unfinished events. -/
  unfinished : ∀ (r : TextRenderer) (res : Result),
    printUnfinishedEvent r (rendered fast) res=printUnfinishedEvent r (rendered full) res
  /-- JSON lines of decoded events. -/
  decoded : ∀ (dst : Bytes) (res : Result),
    appendJSONDecodedSyscallEvent (textsOf ports (update deps st fast order orders) fast) dst
        (rendered fast).toEventContext res=
      appendJSONDecodedSyscallEvent (textsOf ports (update deps st full order orders) full) dst
        (rendered full).toEventContext res
  /-- JSON lines of raw events. -/
  raw : ∀ dst : Bytes,
    appendJSONRawSyscallEvent (textsOf ports st fast) dst (rendered fast).toEventContext=
      appendJSONRawSyscallEvent (textsOf ports st full) dst (rendered full).toEventContext

end Agreement

section Duplicated

variable {deps : Deps} {st : FDStateStore} {view : SyscallEventView} {statePID : ℤ}
  {target : String} {pendingEnter : Option PendingSyscallSnapshot}

/-- Descriptors once one with a path was duplicated. -/
def returnView (fd : Int32) (target : String) (observation : Option FDStateObservation) :
    EventFDView where
  paths := (∅ : GoMap Int32 String).insert fd (unquotePath target)
  states := match observation with
    | none => ∅
    | some observation => (∅ : GoMap Int32 FDStateObservation).insert fd observation

theorem DuplicatesPath.returned_eq (h : DuplicatesPath deps st view statePID target)
    (hvalid : view.valid=true) :
    returned deps st view statePID=
      (returnView (fdRet view) target (st.observation statePID (fdArg view.args[0])),true) := by
  have hproper : ¬((deps.tables.name view.sysID≠"dup2" ∧ deps.tables.name view.sysID≠"dup3") ∨
      view.valid=false ∨ view.eventType≠.exit ∨ view.ret < 0) := by
    rintro (hname | hinvalid | htype | hret)
    · exact h.name.elim hname.1 hname.2
    · rw [hvalid] at hinvalid
      exact absurd hinvalid.symm Bool.false_ne_true
    · exact htype h.eventType
    · exact absurd h.ret (Int64.not_le.mpr hret)
  have hpath : (EventFDView.path {} (fdArg view.args[0])).or
      ((some st).bind fun st => st.path statePID (fdArg view.args[0]))=some target := h.path
  have hobservation : (EventFDView.observation {} (fdArg view.args[0])).or
      ((some st).bind fun st => st.observation statePID (fdArg view.args[0]))=
        st.observation statePID (fdArg view.args[0]) := rfl
  unfold returned dupReturnFDView
  rw [if_neg hproper,h.records,if_pos rfl]
  dsimp only
  rw [if_neg h.differ,hpath]
  dsimp only
  rw [if_neg h.nonempty,hobservation]
  rfl

/-- Descriptors at the return are those of a duplication. -/
theorem duplicatesPath_of_returned (h : (returned deps st view statePID).2=true) :
    ∃ target, DuplicatesPath deps st view statePID target := by
  unfold returned dupReturnFDView at h
  by_cases hproper : (deps.tables.name view.sysID≠"dup2" ∧ deps.tables.name view.sysID≠"dup3") ∨
      view.valid=false ∨ view.eventType≠.exit ∨ view.ret < 0
  · rw [if_pos hproper] at h
    exact absurd h Bool.false_ne_true
  · rw [if_neg hproper] at h
    dsimp only at h
    by_cases hdiffer : fdArg view.args[0]=fdRet view
    · rw [if_pos hdiffer] at h
      exact absurd h Bool.false_ne_true
    · rw [if_neg hdiffer] at h
      have hrecords : deps.fdState=true := by
        by_contra hnone
        rw [if_neg hnone] at h
        exact absurd h Bool.false_ne_true
      rw [if_pos hrecords] at h
      have hempty : (EventFDView.path {} (fdArg view.args[0])).or
          ((some st).bind fun st => st.path statePID (fdArg view.args[0]))=
            st.path statePID (fdArg view.args[0]) := rfl
      rw [hempty] at h
      cases hpath : st.path statePID (fdArg view.args[0]) with
      | none =>
        rw [hpath] at h
        exact absurd h Bool.false_ne_true
      | some target =>
        rw [hpath] at h
        dsimp only at h
        have hnonempty : target≠"" := by
          intro hempty
          rw [if_pos hempty] at h
          exact absurd h Bool.false_ne_true
        rw [not_or,not_or,not_or,Bool.not_eq_false,not_not,Int64.not_lt] at hproper
        obtain ⟨hname,-,htype,hret⟩ := hproper
        have hname : deps.tables.name view.sysID="dup2" ∨ deps.tables.name view.sysID="dup3" := by
          by_contra hother
          exact hname (not_or.mp hother)
        exact ⟨target,hname,htype,hret,hdiffer,hrecords,hpath,hnonempty⟩

theorem DuplicatesPath.syscallName_eq (h : DuplicatesPath deps st view statePID target) :
    syscallName (deps.tables.name view.sysID)=.dup2 ∨
      syscallName (deps.tables.name view.sysID)=.dup3 := by
  rcases h.name with hname | hname
  · rw [hname]
    exact Or.inl (by decide)
  · rw [hname]
    exact Or.inr (by decide)

theorem DuplicatesPath.name_ne (h : DuplicatesPath deps st view statePID target) :
    deps.tables.name view.sysID≠"" := by
  rcases h.name with hname | hname <;> rw [hname] <;> decide

/-- What the short branch records. -/
theorem fdStateUpdate_fast (hname : deps.tables.name view.sysID≠"") (order : OverlayOrder) :
    fdStateUpdate (fastSyscallEventContext deps view statePID pendingEnter) order=
      { source := ⟨view,[]⟩
        name := syscallName (deps.tables.name view.sysID)
        flagDecoder := (fastSyscallEventContext deps view statePID pendingEnter).fdFlags
        pathText := ""
        targetPID := statePID
        order := order } := by
  have hplain : Plain deps view statePID
      (fastSyscallEventContext deps view statePID pendingEnter) := plain_fastSyscallEventContext
  have hmeta : (fastSyscallEventContext deps view statePID pendingEnter).effectiveSyscallMeta=
      syscallMeta deps view.sysID := by
    have hown : (syscallMeta deps view.sysID).name≠"" := hname
    unfold SyscallEventContext.effectiveSyscallMeta
    rw [hplain.scMeta,if_pos hown]
  unfold fdStateUpdate
  rw [hplain.view,hplain.payloadSections,hplain.pathText,hplain.statePID,hmeta]
  rfl

/-- A duplication is recorded. -/
theorem DuplicatesPath.update_eq (h : DuplicatesPath deps st view statePID target)
    (hvalid : view.valid=true) (order : OverlayOrder) (orders : LoopOrders) :
    update deps st (fastSyscallEventContext deps view statePID pendingEnter) order orders=
      st.recordFDState
        (fdStateUpdate (fastSyscallEventContext deps view statePID pendingEnter) order) := by
  have hplain : Plain deps view statePID
      (fastSyscallEventContext deps view statePID pendingEnter) := plain_fastSyscallEventContext
  have hrecords : (fastSyscallEventContext deps view statePID pendingEnter).shouldUpdateFDState
      deps=true := by
    unfold SyscallEventContext.shouldUpdateFDState
    rw [hplain.payloadSections,hplain.view,hvalid,eventTraits_fastSyscallEventContext h.name_ne,
      if_neg (by simp),if_neg (by simp)]
    rcases h.name with hname | hname <;> rw [hname] <;> rfl
  have htainted := tainted_of_path h.path
  unfold SyscallEventContexts.update
  rw [if_pos hrecords,fdStateUpdate_fast h.name_ne]
  unfold FDStateStore.applyFDState
  dsimp only
  have happlies : shouldApplyFDStateEvent deps.tables view
      (syscallName (deps.tables.name view.sysID)) []=true := by
    have htraits : syscallEventTraitsForView deps.tables view
        (syscallName (deps.tables.name view.sysID))=
        syscallEventTraitsForName (syscallName (deps.tables.name view.sysID)) := by
      unfold syscallEventTraitsForView syscallEventTraitsByID
      split_ifs <;> rfl
    unfold shouldApplyFDStateEvent
    rw [htraits,hvalid,if_neg (by simp),if_neg (by simp)]
    rcases h.syscallName_eq with hname | hname <;> rw [hname] <;> rfl
  have hskip : ¬(st.tainted=true ∨ shouldApplyFDStateEvent deps.tables view
      (syscallName (deps.tables.name view.sysID)) []=false) := by
    rw [htainted,happlies]
    simp
  have hrange : syscallName (deps.tables.name view.sysID)≠.closeRange := by
    rcases h.syscallName_eq with hname | hname <;> rw [hname] <;> decide
  rw [if_neg hskip,if_neg hrange]

theorem DuplicatesPath.duplication (h : DuplicatesPath deps st view statePID target)
    (hvalid : view.valid=true) (order : OverlayOrder) :
    Duplication
      (fdStateUpdate (fastSyscallEventContext deps view statePID pendingEnter) order) := by
  rw [fdStateUpdate_fast h.name_ne]
  exact ⟨rfl,h.syscallName_eq,hvalid,h.ret,h.differ⟩

/-- The records have the path of the new descriptor. -/
theorem DuplicatesPath.path_update (h : DuplicatesPath deps st view statePID target)
    (hvalid : view.valid=true) (order : OverlayOrder) (orders : LoopOrders) :
    (update deps st (fastSyscallEventContext deps view statePID pendingEnter) order orders).path
      statePID (fdRet view)=some target := by
  have hdup : Duplication (fdStateUpdate
      (fastSyscallEventContext deps view statePID pendingEnter) order) := h.duplication hvalid order
  rw [h.update_eq hvalid]
  rw [fdStateUpdate_fast h.name_ne] at hdup ⊢
  exact hdup.path h.path

/-- The records have what was left of snapshots of the new descriptor. -/
theorem DuplicatesPath.observation_update (h : DuplicatesPath deps st view statePID target)
    (hvalid : view.valid=true) (order : OverlayOrder) (orders : LoopOrders) (q : ℤ) :
    (update deps st (fastSyscallEventContext deps view statePID pendingEnter) order
      orders).observation q (fdRet view)=keptObservation deps st view statePID q := by
  have hdup : Duplication (fdStateUpdate
      (fastSyscallEventContext deps view statePID pendingEnter) order) := h.duplication hvalid order
  rw [h.update_eq hvalid]
  rw [fdStateUpdate_fast h.name_ne] at hdup ⊢
  exact hdup.observation (tainted_of_path h.path) q

/-- A reader knows the path and the snapshot of a descriptor from the records. -/
structure ReadsRecord (ctx : FDReaders) (opts : HandlerOptions) (fd : Int32) (target : String)
    (recorded : Option FDStateObservation) : Prop where
  /-- Its options. -/
  options : ctx.opts=some opts
  /-- They show paths. -/
  showPaths : opts.showPaths=true
  /-- The path. -/
  path : lookupTrackedFDPath ctx fd=some target
  /-- The snapshot, if there is one. -/
  observation : recordedFDState ctx fd=recorded

/-- The path of the records is shown, unless the event has another. -/
theorem ReadsRecord.formatFdWithPath {ctx : FDReaders} {opts : HandlerOptions} {fd : Int32}
    {recorded : Option FDStateObservation} (h : ReadsRecord ctx opts fd target recorded)
    (hevent : ∀ other∈ctx.eventFDView.bind fun view => view.path fd, other=target) :
    formatFdWithPath ctx fd=formatFDTarget opts ctx fd target := by
  have hshow : ¬opts.showPaths=false := by
    rw [h.showPaths]
    exact Bool.noConfusion
  unfold DescriptorPaths.formatFdWithPath
  rw [h.options]
  dsimp only
  rw [if_neg hshow,h.path]
  cases hpath : ctx.eventFDView.bind fun view => view.path fd with
  | none => rfl
  | some other =>
    obtain rfl := hevent other hpath
    rfl

/-- The records after a duplication are read alike, whatever the event names. -/
theorem DuplicatesPath.readsRecord (h : DuplicatesPath deps st view statePID target)
    (hvalid : view.valid=true) {opts : HandlerOptions} (hopts : deps.handlerOpts=some opts)
    (hshow : opts.showPaths=true) {ctx : HandlerContext}
    (hctx : (fastSyscallEventContext deps view statePID pendingEnter).handlerContext=some ctx)
    (order : OverlayOrder) (orders : LoopOrders) (shown : Option EventFDView) :
    ReadsRecord (readersOf (update deps st
      (fastSyscallEventContext deps view statePID pendingEnter) order orders) ctx shown) opts
      (fdRet view) (unquotePath target) (leftover deps st view statePID) := by
  obtain rfl := handlerContext_fastSyscallEventContext hctx
  have hpath : (update deps st (fastSyscallEventContext deps view statePID pendingEnter) order
      orders).path statePID (fdRet view)=some target := h.path_update hvalid order orders
  have hkept : ∀ q, (update deps st (fastSyscallEventContext deps view statePID pendingEnter) order
      orders).observation q (fdRet view)=keptObservation deps st view statePID q :=
    h.observation_update hvalid order orders
  generalize update deps st (fastSyscallEventContext deps view statePID pendingEnter) order
    orders=after at hpath hkept
  have hstore : (readersOf after (newHandlerContext deps
      (baseContext deps view statePID pendingEnter)) shown).fdStateView=some after := by
    unfold readersOf newHandlerContext
    dsimp only
    rw [h.records,if_pos rfl]
  refine ⟨hopts,hshow,?_,?_⟩
  · have htarget : (readersOf after (newHandlerContext deps
        (baseContext deps view statePID pendingEnter)) shown).targetPid=statePID := rfl
    unfold lookupTrackedFDPath
    rw [hstore,htarget,Option.bind_some,hpath]
    rfl
  · have htarget : (readersOf after (newHandlerContext deps
        (baseContext deps view statePID pendingEnter)) shown).targetPid=statePID := rfl
    have hpid : (readersOf after (newHandlerContext deps
        (baseContext deps view statePID pendingEnter)) shown).pid=view.pid.toNat := rfl
    unfold recordedFDState leftover
    rw [hstore,htarget,hpid,Option.bind_some,hkept,hkept]

/-- With and without the descriptors at the return, the new descriptor is shown alike exactly if
its device is not shown or is the same. -/
theorem DuplicatesPath.formatFdWithPath_eq_iff (h : DuplicatesPath deps st view statePID target)
    (hvalid : view.valid=true) {opts : HandlerOptions} (hopts : deps.handlerOpts=some opts)
    (hshow : opts.showPaths=true) {ctx : HandlerContext}
    (hctx : (fastSyscallEventContext deps view statePID pendingEnter).handlerContext=some ctx)
    (order : OverlayOrder) (orders : LoopOrders) :
    ascii (formatFdWithPath (readersOf (update deps st
        (fastSyscallEventContext deps view statePID pendingEnter) order orders) ctx
        (some (returnView (fdRet view) target (st.observation statePID (fdArg view.args[0])))))
        (fdRet view))=
      ascii (formatFdWithPath (readersOf (update deps st
        (fastSyscallEventContext deps view statePID pendingEnter) order orders) ctx none)
        (fdRet view)) ↔
      (ShowsDevice opts (unquotePath target) →
        ((st.observation statePID (fdArg view.args[0])).or
          (leftover deps st view statePID)).bind deviceOf=
            (leftover deps st view statePID).bind deviceOf) := by
  have hreads := h.readsRecord hvalid hopts hshow hctx order orders
  generalize update deps st (fastSyscallEventContext deps view statePID pendingEnter) order
    orders=after at hreads
  generalize hold : st.observation statePID (fdArg view.args[0])=observation
  have hpath : (returnView (fdRet view) target observation).path (fdRet view)=
      some (unquotePath target) := Finmap.lookup_insert _
  have hobservation : (returnView (fdRet view) target observation).observation (fdRet view)=
      observation := by
    unfold returnView EventFDView.observation
    cases observation with
    | none => exact Finmap.lookup_empty _
    | some observation => exact Finmap.lookup_insert _
  have hfull : eventFDState (readersOf after ctx
      (some (returnView (fdRet view) target observation))) (fdRet view)=
      observation.or (leftover deps st view statePID) := by
    have hevent : ((readersOf after ctx
        (some (returnView (fdRet view) target observation))).eventFDView.bind
          fun shown => shown.observation (fdRet view))=observation := hobservation
    unfold eventFDState
    rw [hevent,(hreads _).observation]
  have hfast : eventFDState (readersOf after ctx none) (fdRet view)=
      leftover deps st view statePID := (hreads none).observation
  have hsame : ∀ other∈(readersOf after ctx
      (some (returnView (fdRet view) target observation))).eventFDView.bind
        fun shown => shown.path (fdRet view), other=unquotePath target := by
    intro other hother
    have hother : (returnView (fdRet view) target observation).path (fdRet view)=some other :=
      hother
    rw [hpath] at hother
    exact (Option.some.inj hother).symm
  rw [(hreads _).formatFdWithPath hsame,
    (hreads none).formatFdWithPath fun other hother => absurd hother.symm (Option.some_ne_none _)]
  have hpids : (readersOf after ctx
      (some (returnView (fdRet view) target observation))).targetPid=
        (readersOf after ctx none).targetPid := rfl
  have hstores : (readersOf after ctx
      (some (returnView (fdRet view) target observation))).fdStateView=
        (readersOf after ctx none).fdStateView := rfl
  refine (formatFDTarget_eq_iff hpids hstores (fdRet view)).trans ?_
  rw [hfull,hfast]

end Duplicated

section Equivalence

variable {deps : Deps} {st after : FDStateStore} {view : SyscallEventView} {statePID : ℤ}
  {target : String} {pendingEnter : Option PendingSyscallSnapshot} {ports : Ports}
  {ctx : HandlerContext}

theorem formatFdWithPath_textsOf {ev : SyscallEventContext} (hctx : ev.handlerContext=some ctx)
    (context : Context EventFDView) (fd : Int32) :
    (textsOf ports after ev).formatFdWithPath context fd=
      ascii (formatFdWithPath (readersOf after ctx context.eventFDView) fd) := by
  unfold textsOf
  dsimp only
  rw [hctx]

/-- The short branch formats the return value in the context of the handler. -/
theorem formatting_fast (texts : Texts EventFDView) :
    (rendered (fastSyscallEventContext deps view statePID
      pendingEnter)).handlerContextForFormatting texts=
      (fastSyscallEventContext deps view statePID pendingEnter).handlerContext.map
        renderedContext := by
  have hplain : Plain deps view statePID
      (fastSyscallEventContext deps view statePID pendingEnter) := plain_fastSyscallEventContext
  exact formatting_of_not_has hplain.hasReturnFDView

/-- The long branch formats the return value of a duplication with the new descriptor. -/
theorem DuplicatesPath.formatting_full (h : DuplicatesPath deps st view statePID target)
    (hvalid : view.valid=true)
    (hctx : (fastSyscallEventContext deps view statePID pendingEnter).handlerContext=some ctx)
    {observation : Option FDStateObservation}
    (hold : st.observation statePID (fdArg view.args[0])=observation) :
    (withShown (rendered (fastSyscallEventContext deps view statePID pendingEnter))
        (returned deps st view statePID).1
        (returned deps st view statePID).2).handlerContextForFormatting
          (textsOf ports after (fastSyscallEventContext deps view statePID pendingEnter))=
      some {renderedContext ctx with
        eventFDView := some (returnView (fdRet view) target observation)} := by
  have hcontext : (withShown (rendered (fastSyscallEventContext deps view statePID pendingEnter))
      (returned deps st view statePID).1
      (returned deps st view statePID).2).handlerContext=some (renderedContext ctx) := by
    change (fastSyscallEventContext deps view statePID pendingEnter).handlerContext.map
      renderedContext=_
    rw [hctx]
    rfl
  have hnonempty : (returnView (fdRet view) target observation).isEmpty=false := by
    have hpaths : (returnView (fdRet view) target observation).paths≠∅ := by
      intro hempty
      have hsome : (returnView (fdRet view) target observation).paths.lookup (fdRet view)=
          some (unquotePath target) := Finmap.lookup_insert _
      rw [hempty,Finmap.lookup_empty] at hsome
      exact absurd hsome.symm (Option.some_ne_none _)
    unfold EventFDView.isEmpty
    rw [decide_eq_false hpaths]
    rfl
  have hview : (textsOf ports after (fastSyscallEventContext deps view statePID
      pendingEnter)).emptyView (returnView (fdRet view) target observation)=false := hnonempty
  rw [h.returned_eq hvalid,hold] at hcontext ⊢
  exact formatting_of_has rfl hcontext hview

/-- Name of the syscall, as the renderers see it. -/
theorem syscallName_rendered (hname : ascii (deps.tables.name view.sysID)≠[]) :
    (rendered (fastSyscallEventContext deps view statePID pendingEnter)).syscallName=
      ascii (deps.tables.name view.sysID) := by
  have hplain : Plain deps view statePID
      (fastSyscallEventContext deps view statePID pendingEnter) := plain_fastSyscallEventContext
  have hmeta : (rendered (fastSyscallEventContext deps view statePID pendingEnter)).metaName=
      ascii (deps.tables.name view.sysID) := congrArg (fun scMeta : Syscall => ascii scMeta.name)
        hplain.scMeta
  unfold EventContext.syscallName
  rw [hmeta,if_pos hname]

/-- Unless a device is lost, both branches show the same return value. -/
theorem sameReturn_of_not_losesDevice (hvalid : view.valid=true)
    (h : ¬LosesDevice deps st view statePID) (order : OverlayOrder) (orders : LoopOrders)
    (res : Result) :
    SameReturn (textsOf ports (update deps st
        (fastSyscallEventContext deps view statePID pendingEnter) order orders)
          (fastSyscallEventContext deps view statePID pendingEnter))
      (rendered (fastSyscallEventContext deps view statePID pendingEnter))
      (returned deps st view statePID).1 (returned deps st view statePID).2 res := by
  have hplain : Plain deps view statePID
      (fastSyscallEventContext deps view statePID pendingEnter) := plain_fastSyscallEventContext
  unfold SameReturn
  rw [formatting_fast]
  by_cases hhas : (returned deps st view statePID).2=true
  · obtain ⟨target,hdup⟩ := duplicatesPath_of_returned hhas
    cases hctx : (fastSyscallEventContext deps view statePID pendingEnter).handlerContext with
    | none =>
      have hnone : (withShown (rendered (fastSyscallEventContext deps view statePID pendingEnter))
          (returned deps st view statePID).1
          (returned deps st view statePID).2).handlerContext=none := by
        change (fastSyscallEventContext deps view statePID pendingEnter).handlerContext.map
          renderedContext=_
        rw [hctx]
        rfl
      unfold EventContext.handlerContextForFormatting
      rw [hnone]
      rfl
    | some ctx =>
      rw [hdup.formatting_full hvalid hctx rfl]
      refine formatSyscallRet_eventFDView fun hret hshows => ?_
      have hopts : ∃ opts, deps.handlerOpts=some opts ∧ opts.showPaths=true := by
        obtain rfl := handlerContext_fastSyscallEventContext hctx
        unfold showsReturnPath at hshows
        dsimp only at hshows
        rw [Bool.and_eq_true,beq_iff_eq] at hshows
        obtain ⟨opts,hopts,hshow⟩ := Option.map_eq_some_iff.mp hshows.1
        exact ⟨opts,hopts,hshow⟩
      obtain ⟨opts,hopts,hshow⟩ := hopts
      have hnone : ctx.eventFDView=none := by
        obtain rfl := handlerContext_fastSyscallEventContext hctx
        rfl
      have hfd : (rendered (fastSyscallEventContext deps view statePID
          pendingEnter)).view.ret.toInt32=fdRet view := congrArg fdRet hplain.view
      rw [formatFdWithPath_textsOf hctx,formatFdWithPath_textsOf hctx,hfd]
      change ascii (formatFdWithPath (readersOf _ ctx (some (returnView _ _ _))) _)=
        ascii (formatFdWithPath (readersOf _ ctx ctx.eventFDView) _)
      rw [hnone]
      refine (hdup.formatFdWithPath_eq_iff hvalid hopts hshow hctx order orders).mpr ?_
      intro hdevice
      cases hobservation : st.observation statePID (fdArg view.args[0]) with
      | none => rfl
      | some observation =>
        by_contra hdiffers
        exact h ⟨target,opts,observation,hdup,hopts,hshow,hdevice,hobservation,hdiffers⟩
  · rw [Bool.not_eq_true] at hhas
    rw [formatting_of_not_has hhas]
    rfl

theorem DuplicatesPath.syscallName_rendered (h : DuplicatesPath deps st view statePID target) :
    (rendered (fastSyscallEventContext deps view statePID
      pendingEnter)).syscallName=ascii "dup2" ∨
      (rendered (fastSyscallEventContext deps view statePID
        pendingEnter)).syscallName=ascii "dup3" := by
  rcases h.name with hname | hname
  · rw [FastEventContexts.syscallName_rendered (by rw [hname]; decide),hname]
    exact Or.inl rfl
  · rw [FastEventContexts.syscallName_rendered (by rw [hname]; decide),hname]
    exact Or.inr rfl

/-- A return value that may be a descriptor gives its handler a context. -/
theorem DuplicatesPath.exists_handlerContext (h : DuplicatesPath deps st view statePID target)
    {opts : HandlerOptions} (hopts : deps.handlerOpts=some opts) (hshow : opts.showPaths=true) :
    ∃ ctx, (fastSyscallEventContext deps view statePID pendingEnter).handlerContext=some ctx ∧
      ctx.opts=some opts := by
  have hmeta := scMeta_baseContext deps view statePID pendingEnter
  have hname : (baseContext deps view statePID pendingEnter).syscallName=
      deps.tables.name view.sysID := by
    have hown : (syscallMeta deps view.sysID).name≠"" := h.name_ne
    unfold SyscallEventContext.syscallName
    rw [hmeta,if_pos hown]
    rfl
  have hneeded : handlerContextNeededForReturn deps
      (baseContext deps view statePID pendingEnter)=true := by
    unfold handlerContextNeededForReturn
    rw [hopts,hname]
    dsimp only
    rw [if_neg (by rw [hshow]; exact Bool.noConfusion)]
    rcases h.name with hname | hname <;> rw [hname] <;> rfl
  have hbuild : shouldBuildHandlerContext deps
      (baseContext deps view statePID pendingEnter)=true := by
    have hruns : (baseContext deps view statePID pendingEnter).shouldRunHandler deps=true := rfl
    have hempty : ¬(baseContext deps view statePID pendingEnter).payloadSections≠[] :=
      fun hpayload => hpayload rfl
    unfold shouldBuildHandlerContext
    rw [hruns,hneeded,if_neg Bool.noConfusion,if_neg hempty,if_pos rfl]
  have hbase : fastSyscallEventContext deps view statePID pendingEnter=
      withHandlerContext deps (baseContext deps view statePID pendingEnter) := rfl
  rw [hbase]
  unfold withHandlerContext
  rw [if_pos hbuild]
  exact ⟨_,rfl,hopts⟩

/-- Where a device is lost, the return values differ. -/
theorem not_sameReturn_of_losesDevice (hvalid : view.valid=true)
    (h : LosesDevice deps st view statePID) (order : OverlayOrder) (orders : LoopOrders) :
    ¬SameReturn (textsOf ports (update deps st
        (fastSyscallEventContext deps view statePID pendingEnter) order orders)
          (fastSyscallEventContext deps view statePID pendingEnter))
      (rendered (fastSyscallEventContext deps view statePID pendingEnter))
      (returned deps st view statePID).1 (returned deps st view statePID).2 {} := by
  obtain ⟨target,opts,observation,hdup,hopts,hshow,hdevice,hobservation,hdiffers⟩ := h
  have hcontexts : ∃ ctx, (fastSyscallEventContext deps view statePID
      pendingEnter).handlerContext=some ctx ∧ ctx.opts=some opts :=
    hdup.exists_handlerContext hopts hshow
  obtain ⟨ctx,hctx,hctxOpts⟩ := hcontexts
  have hplain : Plain deps view statePID
      (fastSyscallEventContext deps view statePID pendingEnter) := plain_fastSyscallEventContext
  have hname : (rendered (fastSyscallEventContext deps view statePID
      pendingEnter)).syscallName=ascii "dup2" ∨
      (rendered (fastSyscallEventContext deps view statePID
        pendingEnter)).syscallName=ascii "dup3" := hdup.syscallName_rendered
  have hret : 0 ≤ (rendered (fastSyscallEventContext deps view statePID
      pendingEnter)).view.ret := by
    have hview : (rendered (fastSyscallEventContext deps view statePID
        pendingEnter)).view.ret=view.ret :=
      congrArg (fun view : SyscallEventView => view.ret) hplain.view
    rw [hview]
    exact hdup.ret
  have hfd : (rendered (fastSyscallEventContext deps view statePID
      pendingEnter)).view.ret.toInt32=fdRet view := congrArg fdRet hplain.view
  have hpaths : (renderedContext ctx).showPaths=some true := by
    unfold renderedContext
    rw [hctxOpts,Option.map_some,hshow]
  have hnone : ctx.eventFDView=none := by
    obtain rfl := handlerContext_fastSyscallEventContext hctx
    rfl
  have hfull : ({renderedContext ctx with
      eventFDView := some (returnView (fdRet view) target (some observation))} :
        Context EventFDView).showPaths=some true := hpaths
  intro hsame
  unfold SameReturn at hsame
  rw [formatting_fast,hdup.formatting_full hvalid hctx hobservation,hctx,Option.map_some,
    formatSyscallRet_duplicated hname hret hpaths,
    formatSyscallRet_duplicated hname hret hfull,
    formatFdWithPath_textsOf hctx,formatFdWithPath_textsOf hctx,hfd] at hsame
  have hiff := hdup.formatFdWithPath_eq_iff hvalid hopts hshow hctx order orders
  rw [hobservation] at hiff
  have hfast : (renderedContext ctx).eventFDView=none := hnone
  rw [hfast] at hsame
  exact hdiffers (hiff.mp hsame hdevice)

/-- A plain renderer prints return values apart. -/
theorem sameReturn_of_printSyscallEvent {ev : SyscallEvent EventFDView} {shown : EventFDView}
    {has : Bool} {texts : Texts EventFDView} {context : Context EventFDView}
    (hcontext : ev.handlerContext=some context) (hshow : context.showPaths=some true)
    (hname : ev.syscallName=ascii "dup2" ∨ ev.syscallName=ascii "dup3")
    (h : ∀ r : TextRenderer, printSyscallEvent texts r ev {}=
      printSyscallEvent texts r (withShown ev shown has) {}) :
    SameReturn texts ev shown has {} := by
  have hslow : ∀ options, fastTextReturnAllowed ev options=false := by
    intro options
    unfold fastTextReturnAllowed
    rw [hcontext,Option.map_some,hshow]
    rfl
  have hgeneral : ∀ r : TextRenderer, writePlainSyscallFast r ev {}=none := by
    intro r
    have hskip : fastTextPrefixAllowed r.options=false ∨
        fastTextReturnAllowed ev r.options=false := Or.inr (hslow r.options)
    unfold writePlainSyscallFast
    dsimp only
    rw [if_pos hskip]
    split_ifs <;> rfl
  have hline := h (newTextRenderer (some {}) {} none none none none 0 1)
  have hready : ((newTextRenderer (some {}) {} none none none none 0 1).observeTaskComm
      (withShown ev shown has)).selectOutputPID (withShown ev shown has).view.tid.toNat=
      ((newTextRenderer (some {}) {} none none none none 0 1).observeTaskComm
        ev).selectOutputPID ev.view.tid.toNat := rfl
  have hout : (((newTextRenderer (some {}) {} none none none none 0 1).observeTaskComm
      ev).selectOutputPID ev.view.tid.toNat).out=some {} := by
    unfold TextRenderer.observeTaskComm
    split_ifs <;> rfl
  have hoptions : (((newTextRenderer (some {}) {} none none none none 0 1).observeTaskComm
      ev).selectOutputPID ev.view.tid.toNat).options={} := by
    unfold TextRenderer.observeTaskComm
    split_ifs <;> rfl
  unfold TextFastLines.printSyscallEvent at hline
  dsimp only at hline
  rw [hready] at hline
  generalize ((newTextRenderer (some {}) {} none none none none 0 1).observeTaskComm
    ev).selectOutputPID ev.view.tid.toNat=r at hline hout hoptions
  have hfast : writePlainSyscallFast r (withShown ev shown has) {}=
      writePlainSyscallFast r ev {} := rfl
  rw [hfast,hgeneral,Option.getD_none,Option.getD_none] at hline
  have hreturn : ∀ ev : SyscallEvent EventFDView,
      ev.syscallName=ascii "dup2" ∨ ev.syscallName=ascii "dup3" →
      r.returnText texts ev {}=formatSyscallRet texts ev.syscallName ev.view.ret {}
        (ev.handlerContextForFormatting texts) := by
    intro ev hname
    have hpid : TextRenderer.isPIDReturnSyscall ev.syscallName=false := by
      rcases hname with hname | hname <;> rw [hname] <;> decide
    unfold TextRenderer.returnText TextRenderer.decoratePIDReturn
    dsimp only
    rw [effectiveSyscallName_eq,hpid,hoptions,if_pos (Or.inr rfl)]
    rfl
  have hstack : r.options.stackTrace=false := by
    rw [hoptions]
  have hsameOut : (r.printReturned ev {} (r.returnText texts ev {})).out=
      (r.printReturned ev {} (r.returnText texts (withShown ev shown has) {})).out :=
    congrArg TextRenderer.out hline
  have hprinted := printReturned_injective hout hstack rfl hsameOut
  rw [hreturn ev hname,hreturn (withShown ev shown has) hname] at hprinted
  exact hprinted.symm

/-- Where the short branch may be taken, it agrees with the long one exactly if no device of a
duplicated descriptor is lost. -/
theorem fast_context_agrees_iff (deps : Deps) (ports : Ports) (st : FDStateStore)
    (order : OverlayOrder) (orders : LoopOrders) (view : SyscallEventView) (statePID : ℤ)
    (pendingEnter : Option PendingSyscallSnapshot) (currentPayload : List PayloadSection)
    (hfast : canUseFastSyscallEventContext view pendingEnter currentPayload deps.filter=true) :
    Agree deps st ports order orders (fastSyscallEventContext deps view statePID pendingEnter)
      (fullSyscallEventContext deps st order view statePID pendingEnter currentPayload) ↔
      ¬LosesDevice deps st view statePID := by
  have hguard := guard_of_canUseFastSyscallEventContext hfast
  have hplain : Plain deps view statePID
      (fastSyscallEventContext deps view statePID pendingEnter) := plain_fastSyscallEventContext
  have hupdate : update deps st (withReturn
      (fastSyscallEventContext deps view statePID pendingEnter) (emptyPathArguments deps view)
        (returned deps st view statePID)) order orders=
      update deps st (fastSyscallEventContext deps view statePID pendingEnter) order orders :=
    update_withReturn hplain.pathText order orders _
  rw [fullSyscallEventContext_eq hguard]
  constructor
  · intro hagree hloses
    obtain ⟨target,opts,_,hdup,hopts,hshow,-⟩ := id hloses
    have hcontexts : ∃ ctx, (fastSyscallEventContext deps view statePID
        pendingEnter).handlerContext=some ctx ∧ ctx.opts=some opts :=
      hdup.exists_handlerContext hopts hshow
    obtain ⟨ctx,hctx,hctxOpts⟩ := hcontexts
    have hcontext : (rendered (fastSyscallEventContext deps view statePID
        pendingEnter)).handlerContext=some (renderedContext ctx) := congrArg
          (fun ctx : Option HandlerContext => ctx.map renderedContext) hctx
    have hpaths : (renderedContext ctx).showPaths=some true := by
      unfold renderedContext
      rw [hctxOpts,Option.map_some,hshow]
    have htext := fun r => hagree.text r {}
    rw [hupdate] at htext
    exact not_sameReturn_of_losesDevice hguard.valid hloses order orders
      (sameReturn_of_printSyscallEvent hcontext hpaths hdup.syscallName_rendered htext)
  · intro hkeeps
    have hsame : ∀ res, SameReturn (textsOf ports (update deps st
        (fastSyscallEventContext deps view statePID pendingEnter) order orders)
          (fastSyscallEventContext deps view statePID pendingEnter))
        (rendered (fastSyscallEventContext deps view statePID pendingEnter))
        (returned deps st view statePID).1 (returned deps st view statePID).2 res :=
      sameReturn_of_not_losesDevice hguard.valid hkeeps order orders
    refine ⟨rfl,rfl,rfl,rfl,hupdate.symm,?_,?_,fun _ _ => rfl,?_,fun _ => rfl⟩
    · rw [hupdate]
      rfl
    · intro r res
      rw [hupdate]
      exact ((hsame res).printSyscallEvent r).symm
    · intro dst res
      rw [hupdate]
      exact ((hsame res).appendJSONDecodedSyscallEvent dst).symm

end Equivalence

section Samples

/-- Session that shows descriptors with their paths and devices. -/
def deviceSession : Deps where
  tables := ⟨fun id => if id=33 then "dup2" else "read",fun _ => false,fun _ => false⟩
  handlerOpts := some {showPaths := true, showFDPath := true, showFDDevice := true}

/-- Handler that shows two descriptors by their numbers. -/
def showsNumbers : Ports where
  handle _ ctx _ := {argParts := (ctx.args.toList.take 2).map fun arg => decimal arg.toNat}

/-- Process 100 duplicates descriptor three over descriptor seven. -/
def duplicatesThree : SyscallEventView :=
  ({eventType := .exit, pid := 100, tid := 100, sysID := 33, ret := 7,
    args := ⟨#[3,7,0,0,0,0],rfl⟩} : TraceEventEnvelope).syscallView

/-- Descriptor three is a file. -/
def fileStore : FDStateStore :=
  {paths := (∅ : GoMap String String).insert (slotKey 100 (.fd 3)) "/tmp/log"}

/-- Descriptor three is the terminal. -/
def terminalStore : FDStateStore where
  paths := (∅ : GoMap String String).insert (slotKey 100 (.fd 3)) "/dev/tty"
  fdStates := (∅ : GoMap String FDStateObservation).insert (slotKey 100 (.fd 3))
    ⟨3,1,0o020666,6,0x500000,12,0⟩

/-- The branches agree on a descriptor without a snapshot. -/
theorem fast_context_agrees_on_file :
    canUseFastSyscallEventContext duplicatesThree none [] deviceSession.filter=true ∧
    Agree deviceSession fileStore showsNumbers {} {}
      (fastSyscallEventContext deviceSession duplicatesThree 100 none)
      (fullSyscallEventContext deviceSession fileStore {} duplicatesThree 100 none []) := by
  refine ⟨by decide,(fast_context_agrees_iff deviceSession showsNumbers fileStore {} {}
    duplicatesThree 100 none [] (by decide)).mpr ?_⟩
  rintro ⟨_,_,observation,-,-,-,-,hobservation,-⟩
  have hnone : fileStore.observation 100 (fdArg duplicatesThree.args[0])=none := by decide
  rw [hnone] at hobservation
  exact absurd hobservation.symm (Option.some_ne_none observation)

/-- Bytes that a plain renderer writes for an event. -/
def plainLine (st : FDStateStore) (ev : SyscallEventContext) : Option Bytes :=
  (printSyscallEvent (textsOf showsNumbers (update deviceSession st ev {} {}) ev)
    (newTextRenderer (some {}) {} none none none none 0 1) (rendered ev)
    (handle deviceSession showsNumbers st ev).1).out.map fun out => out.written.map Prod.snd

/-- On the terminal the short branch loses the device. -/
theorem fast_context_loses_terminal :
    canUseFastSyscallEventContext duplicatesThree none [] deviceSession.filter=true ∧
    plainLine terminalStore (fastSyscallEventContext deviceSession duplicatesThree 100 none)=
      some (ascii "dup2(3, 7) = 7</dev/tty>\n") ∧
    plainLine terminalStore
        (fullSyscallEventContext deviceSession terminalStore {} duplicatesThree 100 none [])=
      some (ascii "dup2(3, 7) = 7</dev/tty<char 5:0>>\n") ∧
    ¬Agree deviceSession terminalStore showsNumbers {} {}
      (fastSyscallEventContext deviceSession duplicatesThree 100 none)
      (fullSyscallEventContext deviceSession terminalStore {} duplicatesThree 100 none []) := by
  have hfast : plainLine terminalStore
      (fastSyscallEventContext deviceSession duplicatesThree 100 none)=
        some (ascii "dup2(3, 7) = 7</dev/tty>\n") := by decide
  have hfull : plainLine terminalStore
      (fullSyscallEventContext deviceSession terminalStore {} duplicatesThree 100 none [])=
        some (ascii "dup2(3, 7) = 7</dev/tty<char 5:0>>\n") := by decide
  refine ⟨by decide,hfast,hfull,fun hagree => ?_⟩
  have hsame : plainLine terminalStore
      (fastSyscallEventContext deviceSession duplicatesThree 100 none)=
      plainLine terminalStore
        (fullSyscallEventContext deviceSession terminalStore {} duplicatesThree 100 none []) := by
    unfold plainLine
    rw [hagree.text,hagree.handled]
  rw [hfast,hfull] at hsame
  exact absurd hsame (by decide)

end Samples

end StraceGo.FastEventContexts

import StraceGo.EventInvocationParts
import StraceGo.EventStateRuns
import StraceGo.PayloadBuffers
import StraceGo.SyscallEventContexts

/-!
# Merged payload sections

While an enter and its fragments are collected, a section is stored unless one before it describes
the same object; at the exit a stored section gives way to one of the exit. Collecting copies
bytes into recycled buffers. The exit either asks the storage for a view, or filters the list of
sections into the array it is read from. Both ways lead to the same list and write no byte.
-/

namespace StraceGo.PayloadMerging

open EventEnvelope EventInvocationParts EventSyscallCorrelation EventSyscallOwnership EventStateRuns
open GoSlices PayloadBuffers ObjectPool
open EventPayloadStorage (hasEquivalentPayloadSection mergeSections nestedFDPathIdentityMatches)

section Lists

/-- Sections of a list that describe the object of none stored before them. -/
def newSections (stored : List PayloadSection) : List PayloadSection → List PayloadSection
  | [] => []
  | payload::rest =>
    if hasEquivalentPayloadSection stored payload then newSections stored rest
    else payload::newSections (stored ++ [payload]) rest

variable {stored next again : List PayloadSection} {s : PayloadSection}

theorem mergeSections_cons (stored rest : List PayloadSection) (payload : PayloadSection) :
    mergeSections stored (payload::rest)=
      mergeSections (if hasEquivalentPayloadSection stored payload then stored
        else stored ++ [payload]) rest := rfl

/-- Merging keeps what is stored and adds the new sections in order. -/
theorem mergeSections_eq (stored next : List PayloadSection) :
    mergeSections stored next=stored ++ newSections stored next := by
  induction next generalizing stored with
  | nil => exact (List.append_nil stored).symm
  | cons payload rest ih =>
    rw [mergeSections_cons,newSections]
    split_ifs with hknown
    · exact ih stored
    · rw [ih,List.append_assoc,List.singleton_append]

theorem equivalentSections_refl (s : PayloadSection) : equivalentSections s s=true := by
  unfold equivalentSections nestedFDPathIdentityMatches
  split_ifs <;> simp

theorem hasEquivalent_of_mem (hs : s∈stored) : hasEquivalentPayloadSection stored s=true :=
  (hasEquivalent_iff stored s).mpr ⟨s,hs,equivalentSections_refl s⟩

theorem hasEquivalent_mono (hsub : stored ⊆ next)
    (h : hasEquivalentPayloadSection stored s=true) :
    hasEquivalentPayloadSection next s=true := by
  obtain ⟨known,hknown,hsame⟩ := (hasEquivalent_iff stored s).mp h
  exact (hasEquivalent_iff next s).mpr ⟨known,hsub hknown,hsame⟩

theorem subset_mergeSections (stored next : List PayloadSection) :
    stored ⊆ mergeSections stored next := by
  rw [mergeSections_eq]
  exact List.subset_append_left _ _

/-- After a merge every stored and every merged section is described. -/
theorem hasEquivalent_merged (hs : s∈stored ++ next) :
    hasEquivalentPayloadSection (mergeSections stored next) s=true := by
  induction next generalizing stored with
  | nil =>
    rw [List.append_nil] at hs
    exact hasEquivalent_of_mem hs
  | cons payload rest ih =>
    rw [mergeSections_cons]
    rw [List.mem_append,List.mem_cons] at hs
    split_ifs with hknown
    · rcases hs with hstored | rfl | hrest
      · exact ih (List.mem_append_left rest hstored)
      · exact hasEquivalent_mono (subset_mergeSections stored rest) hknown
      · exact ih (List.mem_append_right stored hrest)
    · rcases hs with hstored | rfl | hrest
      · exact ih (List.mem_append_left rest (List.mem_append_left [payload] hstored))
      · exact ih (List.mem_append_left rest (List.mem_append_right stored List.mem_cons_self))
      · exact ih (List.mem_append_right _ hrest)

/-- Sections that are all described add nothing. -/
theorem mergeSections_described
    (h : ∀ s∈again, hasEquivalentPayloadSection stored s=true) :
    mergeSections stored again=stored := by
  induction again with
  | nil => rfl
  | cons payload rest ih =>
    rw [mergeSections_cons,if_pos (h payload List.mem_cons_self)]
    exact ih fun s hs => h s (List.mem_cons_of_mem payload hs)

/-- Delivering merged sections again changes nothing. -/
theorem mergeSections_redelivered (h : again ⊆ stored ++ next) :
    mergeSections (mergeSections stored next) again=mergeSections stored next :=
  mergeSections_described fun _ hs => hasEquivalent_merged (h hs)

end Lists

section Correlation

/-- A partial record and its sections. -/
abbrev Fragment : Type := SyscallEventView×List PayloadSection

/-- Remember partial records in order. -/
def rememberFragments (c : TraceSyscallCorrelationState) (fragments : List Fragment) :
    TraceSyscallCorrelationState :=
  fragments.foldl (fun c part => c.rememberPayloadFragment part.1 part.2) c

/-- Remember an enter and its partial records. -/
def collect (c : TraceSyscallCorrelationState) (view : SyscallEventView)
    (payload : List PayloadSection) (fragments : List Fragment) : TraceSyscallCorrelationState :=
  rememberFragments (c.rememberEnterEvent view payload).1 fragments

/-- Sections of partial records. -/
def delivered (fragments : List Fragment) : List PayloadSection := fragments.flatMap Prod.snd

variable {c : TraceSyscallCorrelationState} {live loose : Multiset Ref} {out : Ref → EnterValue}
  {a : Contents} {tid : UInt32} {v : EnterValue} {view : SyscallEventView}

theorem pending_rememberPayloadFragment (hpending : a.pending view.tid=some v)
    (hsame : v.sysID=view.sysID) (payload : List PayloadSection) :
    (a.rememberPayloadFragment view payload).pending view.tid=
      some {v with sections := mergeSections v.sections payload} := by
  unfold Contents.rememberPayloadFragment Contents.setPending
  rw [hpending,Option.map_some,if_neg (not_not.mpr hsame)]
  exact Function.update_self ..

/-- Partial records of one syscall are merged in their order. -/
theorem Represents.rememberFragments (h : Represents c live loose out a)
    (hpending : a.pending tid=some v) {fragments : List Fragment}
    (hfragments : ∀ part∈fragments, part.1.tid=tid ∧ part.1.sysID=v.sysID) :
    ∃ b, Represents (rememberFragments c fragments) live loose out b ∧
      b.pending tid=some {v with sections := mergeSections v.sections (delivered fragments)} := by
  induction fragments generalizing c a v with
  | nil => exact ⟨a,h,hpending⟩
  | cons part rest ih =>
    obtain ⟨⟨htid,hsysID⟩,hrest⟩ := List.forall_mem_cons.mp hfragments
    subst htid
    have hmerged := pending_rememberPayloadFragment hpending hsysID.symm part.2
    obtain ⟨b,hb,hvalue⟩ := ih (h.rememberPayloadFragment part.1 part.2) hmerged hrest
    refine ⟨b,hb,hvalue.trans ?_⟩
    rw [mergeSections_append]
    rfl

theorem enteredValue_sysID (a : Contents) (view : SyscallEventView)
    (payload : List PayloadSection) : (a.enteredValue view payload).sysID=view.sysID := by
  unfold Contents.enteredValue
  cases a.pending view.tid with
  | none => rfl
  | some before =>
    dsimp only
    split_ifs with hsame
    · exact hsame
    · rfl

theorem sections_enteredValue_opened (h : a.sameSyscall view=false)
    (payload : List PayloadSection) : (a.enteredValue view payload).sections=payload := by
  unfold Contents.sameSyscall at h
  unfold Contents.enteredValue
  cases hbefore : a.pending view.tid with
  | none => rfl
  | some before =>
    rw [hbefore,Option.any_some,beq_eq_false_iff_ne] at h
    dsimp only
    rw [if_neg h]
    rfl

theorem sections_enteredValue_joined (h : a.sameSyscall view=true)
    (payload : List PayloadSection) :
    ∃ before, a.pending view.tid=some before ∧
      (a.enteredValue view payload).sections=mergeSections before.sections payload := by
  unfold Contents.sameSyscall at h
  unfold Contents.enteredValue
  cases hbefore : a.pending view.tid with
  | none =>
    rw [hbefore] at h
    exact absurd h Bool.false_ne_true
  | some before =>
    rw [hbefore,Option.any_some,beq_iff_eq] at h
    refine ⟨before,rfl,?_⟩
    dsimp only
    rw [if_pos h]
    rfl

theorem pendingAt_eq (h : Represents c live loose out a) (tid : UInt32) :
    pendingAt c tid=a.pending tid := (h.pending_eq tid).symm

/-- What the state remembers once an enter and its partial records are in. -/
theorem Represents.collect (h : Represents c live loose out a) (payload : List PayloadSection)
    {fragments : List Fragment}
    (hfragments : ∀ part∈fragments, part.1.tid=view.tid ∧ part.1.sysID=view.sysID) :
    ∃ b v, Represents (collect c view payload fragments) live loose out b ∧
      b.pending view.tid=some v ∧ v.sysID=view.sysID ∧
      v.sections=mergeSections (a.enteredValue view payload).sections (delivered fragments) := by
  have hsysID := enteredValue_sysID a view payload
  have hentered : (a.rememberEnterEvent view payload).pending view.tid=
      some (a.enteredValue view payload) := Function.update_self ..
  obtain ⟨b,hb,hvalue⟩ := Represents.rememberFragments (h.rememberEnterEvent view payload).1
    hentered fun part hpart => by rw [hsysID]; exact hfragments part hpart
  exact ⟨b,_,hb,hvalue,hsysID,rfl⟩

/-- What is remembered of an enter and its partial records. -/
structure Collected (c : TraceSyscallCorrelationState) (view : SyscallEventView)
    (payload : List PayloadSection) (fragments : List Fragment) : Prop where
  /-- An enter that opens a syscall stores its sections, and the new ones of the fragments. -/
  opened : (c.rememberEnterEvent view payload).2=true →
    ∃ v, pendingAt (collect c view payload fragments) view.tid=some v ∧
      v.sections=payload ++ newSections payload (delivered fragments)
  /-- An enter of the open syscall is merged like a fragment. -/
  joined : (c.rememberEnterEvent view payload).2=false →
    ∃ before v, pendingAt c view.tid=some before ∧
      pendingAt (collect c view payload fragments) view.tid=some v ∧
      v.sections=before.sections ++ newSections before.sections (payload ++ delivered fragments)
  /-- A fragment with merged sections changes nothing. -/
  redelivered : ∀ (record : SyscallEventView) (again : List PayloadSection),
    record.tid=view.tid → again ⊆ payload ++ delivered fragments →
    pendingAt ((collect c view payload fragments).rememberPayloadFragment record again) view.tid=
      pendingAt (collect c view payload fragments) view.tid
  /-- An enter with merged sections changes no section. -/
  reentered : ∀ (record : SyscallEventView) (again : List PayloadSection),
    record.tid=view.tid → record.sysID=view.sysID → again ⊆ payload ++ delivered fragments →
    (pendingAt ((collect c view payload fragments).rememberEnterEvent record again).1
      view.tid).map (·.sections)=
      (pendingAt (collect c view payload fragments) view.tid).map (·.sections)

theorem collected_of_represents (h : Represents c live loose out a) (payload : List PayloadSection)
    {fragments : List Fragment}
    (hfragments : ∀ part∈fragments, part.1.tid=view.tid ∧ part.1.sysID=view.sysID) :
    Collected c view payload fragments := by
  obtain ⟨b,v,hb,hpending,hsysID,hsections⟩ := Represents.collect h payload hfragments
  have hreport := (h.rememberEnterEvent view payload).2
  have hvalue := (pendingAt_eq hb view.tid).trans hpending
  have hdescribed : ∀ again ⊆ payload ++ delivered fragments,
      mergeSections v.sections again=v.sections := by
    intro again hagain
    rw [hsections]
    cases hsame : a.sameSyscall view with
    | false =>
      rw [sections_enteredValue_opened hsame]
      exact mergeSections_redelivered hagain
    | true =>
      obtain ⟨before,-,hjoined⟩ := sections_enteredValue_joined hsame payload
      rw [hjoined,mergeSections_append before.sections]
      exact mergeSections_redelivered fun s hs => List.mem_append_right _ (hagain hs)
  constructor
  · intro hopened
    rw [hreport,Bool.not_eq_true'] at hopened
    refine ⟨v,hvalue,?_⟩
    rw [hsections,sections_enteredValue_opened hopened,mergeSections_eq]
  · intro hjoined
    rw [hreport,Bool.not_eq_false'] at hjoined
    obtain ⟨before,hbefore,hmerged⟩ := sections_enteredValue_joined hjoined payload
    refine ⟨before,v,(pendingAt_eq h view.tid).trans hbefore,hvalue,?_⟩
    rw [hsections,hmerged,mergeSections_append,mergeSections_eq]
  · intro record again htid hagain
    rw [pendingAt_eq (hb.rememberPayloadFragment record again),hvalue]
    unfold Contents.rememberPayloadFragment Contents.setPending
    dsimp only
    rw [htid,Function.update_self,hpending,Option.map_some]
    split_ifs with hother
    · rfl
    · rw [hdescribed again hagain]
  · intro record again htid hsame hagain
    rw [pendingAt_eq (hb.rememberEnterEvent record again).1,hvalue]
    unfold Contents.rememberEnterEvent Contents.setPending Contents.enteredValue
    dsimp only
    rw [htid,Function.update_self,hpending]
    dsimp only
    rw [if_pos (hsysID.trans hsame.symm),Option.map_some,Option.map_some]
    exact congrArg some (hdescribed again hagain)

end Correlation

section Memory

/-- Copy the sections that describe a new user object. -/
def mergePayloadSectionsIntoStorage (A : Allocator) (w : World) (next : List Section) : World :=
  next.foldl (fun w payload =>
    if hasEquivalent w.heap w.storage.sections.visible payload then w
    else w.appendOwned A payload) w

/-- Sections of a record, and what the caller's buffers hold when it arrives. -/
structure Record where
  /-- Contents of the caller's buffers. -/
  caller : ℕ → List UInt8
  /-- Sections of the record. -/
  sections : List CallerSection

namespace Record

variable (record : Record)

/-- What the sections show. -/
def values : List PayloadSection := record.sections.map (CallerSection.value record.caller)

/-- The sections in memory. -/
def inMemory : List Section := record.sections.map CallerSection.toSection

end Record

/-- Merge a partial record into a storage. -/
def mergeRecord (A : Allocator) (w : World) (record : Record) : World :=
  mergePayloadSectionsIntoStorage A (w.rewrite record.caller) record.inMemory

/-- Copy an enter into a storage and merge its partial records. -/
def collectRecords (A : Allocator) (w : World) (enter : Record) (fragments : List Record) : World :=
  fragments.foldl (mergeRecord A) ((w.rewrite enter.caller).copyFrom A enter.inMemory)

/-- An enter's captured memory as it is handed on. -/
structure PendingPayload where
  /-- Its sections. -/
  payloadSections : Backed Section
  /-- The storage that owns them. -/
  payloadStorage : Option TracePayloadStorage

/-- Captured memory of an enter that the exit does not repeat, then the exit's own; the enter keeps
the same. -/
def mergePendingPayloadSections (A : Allocator) (heap : Heap UInt8)
    (pendingEnter : Option PendingPayload) (current : List Section) :
    Heap UInt8×Option PendingPayload×List Section :=
  match pendingEnter with
  | none => (heap,none,current)
  | some pending =>
    if pending.payloadSections.visible=[] then (heap,some pending,current)
    else if current=[] then (heap,some pending,pending.payloadSections.visible)
    else
      match pending.payloadStorage with
      | some storage =>
        let (w,merged) := World.mergeView A ⟨heap,storage⟩ current
        (w.heap,some ⟨w.storage.merged,some w.storage⟩,merged)
      | none =>
        let kept := pending.payloadSections.compact A.sections
          fun s => !hasEquivalent heap current s
        let owned := kept.append A.sections current
        (heap,some ⟨owned,none⟩,owned.visible)

variable {A : Allocator} {w : World} {stored : List PayloadSection}

theorem Keeps.filterMap_visible (h : Keeps w stored) :
    w.storage.sections.visible.filterMap (Section.value w.heap)=stored := by
  have hvalues := congrArg (List.filterMap id) h.shown
  rw [World.shown,List.filterMap_map,List.filterMap_map,Function.id_comp,Function.id_comp,
    List.filterMap_some] at hvalues
  exact hvalues

/-- The test for an equivalent section reads the stored values. -/
theorem Keeps.hasEquivalent_eq (h : Keeps w stored) (payload : CallerSection) :
    hasEquivalent w.heap w.storage.sections.visible payload.toSection=
      hasEquivalentPayloadSection stored (payload.value w.heap.caller) := by
  rw [hasEquivalent,Keeps.filterMap_visible h,value_toSection,Option.any_some]

/-- Merging into a storage merges what it shows. -/
theorem Keeps.merge (A : Allocator) (h : Keeps w stored) (payloads : List CallerSection) :
    Keeps (mergePayloadSectionsIntoStorage A w (payloads.map CallerSection.toSection))
      (mergeSections stored (payloads.map (CallerSection.value w.heap.caller))) := by
  unfold mergePayloadSectionsIntoStorage
  induction payloads generalizing w stored with
  | nil => exact h
  | cons payload rest ih =>
    rw [List.map_cons,List.foldl_cons,List.map_cons,mergeSections_cons,
      Keeps.hasEquivalent_eq h payload]
    split_ifs with hknown
    · exact ih h
    · have happended := appendOwned_extended A h.sound payload
      have hkeeps : Keeps (w.appendOwned A payload.toSection)
          (stored ++ [payload.value w.heap.caller]) := by
        refine ⟨happended.sound,?_⟩
        rw [happended.shown,h.shown,List.map_append]
      have hrest := ih hkeeps
      rw [happended.caller] at hrest
      exact hrest

theorem Keeps.rewrite (h : Keeps w stored) (caller : ℕ → List UInt8) :
    Keeps (w.rewrite caller) stored :=
  ⟨rewrite_sound h.sound caller,(shown_rewrite h.sound caller).trans h.shown⟩

theorem Keeps.mergeRecord (A : Allocator) (h : Keeps w stored) (record : Record) :
    Keeps (mergeRecord A w record) (mergeSections stored record.values) :=
  Keeps.merge A (Keeps.rewrite h record.caller) record.sections

/-- A storage shows an enter and the new sections of its partial records. -/
theorem Keeps.collectRecords (A : Allocator) (h : Keeps w stored) (enter : Record)
    (fragments : List Record) :
    Keeps (collectRecords A w enter fragments)
      (mergeSections enter.values (fragments.flatMap Record.values)) := by
  have hcopied := copyFrom_extended A (rewrite_sound h.sound enter.caller) enter.sections
  have hentered : Keeps ((w.rewrite enter.caller).copyFrom A enter.inMemory) enter.values :=
    ⟨hcopied.sound,hcopied.shown⟩
  unfold PayloadMerging.collectRecords
  generalize (w.rewrite enter.caller).copyFrom A enter.inMemory=copied at hentered
  generalize enter.values=values at hentered
  induction fragments generalizing copied values with
  | nil => exact hentered
  | cons record rest ih =>
    have hrest := ih _ _ (Keeps.mergeRecord A hentered record)
    rw [mergeSections_append] at hrest
    exact hrest

/-- Merging sections that are all described does nothing. -/
theorem Keeps.merge_described (A : Allocator) (h : Keeps w stored) {payloads : List CallerSection}
    (hknown : ∀ s∈payloads.map (CallerSection.value w.heap.caller),
      hasEquivalentPayloadSection stored s=true) :
    mergePayloadSectionsIntoStorage A w (payloads.map CallerSection.toSection)=w := by
  unfold mergePayloadSectionsIntoStorage
  induction payloads with
  | nil => rfl
  | cons payload rest ih =>
    rw [List.map_cons,List.forall_mem_cons] at hknown
    rw [List.map_cons,List.foldl_cons,if_pos]
    · exact ih hknown.2
    · rw [Keeps.hasEquivalent_eq h payload]
      exact hknown.1

/-- The exit's list, whichever way it is made, and without writing a byte. -/
theorem mergePendingPayloadSections_spec (A : Allocator) (heap : Heap UInt8)
    (pending : PendingPayload) (current : List Section)
    (hstorage : ∀ storage, pending.payloadStorage=some storage →
      storage.sections=pending.payloadSections) :
    (mergePendingPayloadSections A heap (some pending) current).1=heap ∧
      (mergePendingPayloadSections A heap (some pending) current).2.2=
        pending.payloadSections.visible.filter (fun s => !hasEquivalent heap current s) ++
          current := by
  obtain ⟨sections,owner⟩ := pending
  unfold mergePendingPayloadSections
  dsimp only at hstorage ⊢
  split_ifs with hnone hempty
  · rw [hnone]
    exact ⟨rfl,rfl⟩
  · have hview := mergeView_view A ⟨heap,⟨sections,{}⟩⟩ current
    rw [World.mergeView,if_pos hempty] at hview
    exact ⟨rfl,hview⟩
  · cases owner with
    | some storage =>
      have hview := mergeView_view A ⟨heap,storage⟩ current
      dsimp only at hview ⊢
      rw [hstorage storage rfl] at hview
      exact ⟨(mergeView_frame A ⟨heap,storage⟩ current).1,hview⟩
    | none =>
      refine ⟨rfl,?_⟩
      dsimp only
      rw [Backed.visible_append,Backed.visible_compact]

/-- On values the exit's list is the same. -/
theorem exitView_of_snapshot (pending : SyscallEventContexts.PendingSyscallSnapshot)
    (hstorage : ∀ storage, pending.payloadStorage=some storage →
      storage.sections=pending.payloadSections) (current : List PayloadSection) :
    (SyscallEventContexts.mergePendingPayloadSections (some pending) current).2=
      exitView pending.payloadSections current := by
  unfold SyscallEventContexts.mergePendingPayloadSections exitView
  dsimp only
  split_ifs with hnone hempty
  · rw [hnone]
    rfl
  · rw [hempty,List.append_nil]
    exact (List.filter_eq_self.mpr fun s _ => rfl).symm
  · cases howner : pending.payloadStorage with
    | none => rfl
    | some storage =>
      dsimp only [EventPayloadStorage.TracePayloadStorage.mergeView]
      rw [if_neg hempty,hstorage storage howner]

/-- The exit's list for sections that show stored values. -/
structure ExitList (A : Allocator) (w : World) (stored : List PayloadSection) (current : Record)
    (pending : PendingPayload) : Prop where
  /-- The list shows the stored sections that the exit does not repeat, then the exit's own. -/
  shown : (mergePendingPayloadSections A (w.rewrite current.caller).heap (some pending)
    current.inMemory).2.2.map (Section.value (w.rewrite current.caller).heap)=
      (exitView stored current.values).map some
  /-- No byte is written. -/
  bytes : (mergePendingPayloadSections A (w.rewrite current.caller).heap (some pending)
    current.inMemory).1=(w.rewrite current.caller).heap

/-- What the exit makes of a storage. -/
structure ExitMerged (A : Allocator) (w : World) (stored : List PayloadSection)
    (current : Record) : Prop where
  /-- Through a view of the storage. -/
  viewed : ExitList A w stored current ⟨w.storage.sections,some w.storage⟩
  /-- By filtering a list of the sections in place, whatever lies behind it. -/
  filtered : ∀ sections : Backed Section, sections.visible=w.storage.sections.visible →
    ExitList A w stored current ⟨sections,none⟩
  /-- Both ways give the same sections in memory. -/
  same : ∀ sections : Backed Section, sections.visible=w.storage.sections.visible →
    (mergePendingPayloadSections A (w.rewrite current.caller).heap (some ⟨sections,none⟩)
      current.inMemory).2.2=
      (mergePendingPayloadSections A (w.rewrite current.caller).heap
        (some ⟨w.storage.sections,some w.storage⟩) current.inMemory).2.2

theorem Keeps.exitMerged (A : Allocator) (h : Keeps w stored) (current : Record) :
    ExitMerged A w stored current := by
  have hview := (Keeps.rewrite h current.caller).view A current.sections
  rw [mergeView_view] at hview
  have hviewed := mergePendingPayloadSections_spec A (w.rewrite current.caller).heap
    ⟨w.storage.sections,some w.storage⟩ current.inMemory
    (fun storage hstorage => by rw [←Option.some.inj hstorage])
  have hfiltered : ∀ sections : Backed Section, _ := fun sections =>
    mergePendingPayloadSections_spec A (w.rewrite current.caller).heap ⟨sections,none⟩
      current.inMemory (fun storage hstorage => absurd hstorage.symm (Option.some_ne_none _))
  constructor
  · constructor
    · rw [hviewed.2]
      exact hview
    · exact hviewed.1
  · intro sections hvisible
    constructor
    · rw [(hfiltered sections).2]
      dsimp only
      rw [hvisible]
      exact hview
    · exact (hfiltered sections).1
  · intro sections hvisible
    rw [hviewed.2,(hfiltered sections).2]
    dsimp only
    rw [hvisible]

/-- What a storage in memory makes of an enter, its partial records and an exit. -/
structure Merged (A : Allocator) (steps : List Step) (enter : Record) (fragments : List Record) :
    Prop where
  /-- The enter's sections are stored, and the new ones of the fragments. -/
  shown : ∀ caller, ((collectRecords A (World.run A steps) enter fragments).rewrite caller).shown=
    (enter.values ++ newSections enter.values (fragments.flatMap Record.values)).map some
  /-- Merging merged sections again does nothing. -/
  redelivered : ∀ again : Record,
    again.values ⊆ enter.values ++ fragments.flatMap Record.values →
    mergeRecord A (collectRecords A (World.run A steps) enter fragments) again=
      (collectRecords A (World.run A steps) enter fragments).rewrite again.caller
  /-- The exit's sections take precedence. -/
  exit : ∀ current : Record, ExitMerged A (collectRecords A (World.run A steps) enter fragments)
    (enter.values ++ newSections enter.values (fragments.flatMap Record.values)) current

theorem merged_of_run (A : Allocator) (steps : List Step) (enter : Record)
    (fragments : List Record) : Merged A steps enter fragments := by
  have hkeeps := Keeps.collectRecords A (keeps_run A steps) enter fragments
  have hlist := mergeSections_eq enter.values (fragments.flatMap Record.values)
  constructor
  · intro caller
    rw [←hlist]
    exact (Keeps.rewrite hkeeps caller).shown
  · intro again hagain
    exact Keeps.merge_described A (Keeps.rewrite hkeeps again.caller)
      fun s hs => hasEquivalent_merged (hagain hs)
  · intro current
    rw [←hlist]
    exact Keeps.exitMerged A hkeeps current

end Memory

section Merging

/-- Collecting an enter and its partial records stores every section that describes a new object,
in order, and only these; the exit replaces what it repeats. This holds of the state after every
run and of every storage in memory. -/
theorem payload_merging_is_exact {tables : EventTaskLifecycle.SyscallTables}
    {config : SessionConfig} {ops : List Operation}
    (hops : AdmissibleRun tables {st := newTraceStateForSession config} ops)
    (view : SyscallEventView) (payload : List PayloadSection) {fragments : List Fragment}
    (hfragments : ∀ part∈fragments, part.1.tid=view.tid ∧ part.1.sysID=view.sysID) :
    Collected (run tables {st := newTraceStateForSession config} ops).st.correlation view
        payload fragments ∧
      ∀ A steps enter records, Merged A steps enter records := by
  obtain ⟨a,hremembers⟩ := (remembers_new config).run hops
  exact ⟨collected_of_represents hremembers payload hfragments,merged_of_run⟩

/-- Tables that name nothing. -/
def mergingTables : EventTaskLifecycle.SyscallTables where
  name := fun _ => ""
  isPlainGenericEnterExitRoute := fun _ => false
  isStandaloneExitElisionRoute := fun _ => false

/-- A path captured at a fragment. -/
def fragmentSection : PayloadSection where
  kind := .string
  direction := .input
  argIndex := 1
  userPtr := 4096
  userLen := 4
  copiedLen := 4
  probeRet := 0
  data := [47,116,109,112]

theorem payload_merging_is_exact_path :
    AdmissibleRun mergingTables {st := newTraceStateForSession {}} [] ∧
      Collected (run mergingTables {st := newTraceStateForSession {}} []).st.correlation default []
        [(default,[fragmentSection])] ∧
      ∀ A steps enter records, Merged A steps enter records := by
  have hrun : AdmissibleRun mergingTables {st := newTraceStateForSession {}} [] := trivial
  refine ⟨hrun,payload_merging_is_exact hrun default [] ?_⟩
  intro part hpart
  rw [List.mem_singleton.mp hpart]
  exact ⟨rfl,rfl⟩

end Merging

end StraceGo.PayloadMerging

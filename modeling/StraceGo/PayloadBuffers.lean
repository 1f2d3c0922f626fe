import StraceGo.EventPayloadStorage
import StraceGo.GoSlices

/-!
# Buffers of recycled payload storages

A storage copies the bytes of payload sections into buffers of its own. Clearing it keeps the
buffers, empty, behind its sections, and the next sections are written into them by position.
The sections, and a merged view of them with borrowed ones, are slices over arrays that are kept
as well.

Along every history of calls the sections of a storage hold one buffer each, no two the same and
none a caller's. What they show is then what was given since they were last cleared, whatever
the caller does with its buffers.
-/

namespace StraceGo.PayloadBuffers

open EventEnvelope GoSlices
open EventPayloadStorage (hasEquivalentPayloadSection mergeSections)

section Storages

/-- Larger buffers are not kept. -/
def tracePayloadStorageMaxRetainedBytes : ℕ := 65536

/-- What a payload section says about its bytes. -/
structure SectionHeader where
  /-- Decoder class of the bytes. -/
  kind : PayloadKind
  /-- Capturing edge. -/
  direction : PayloadDirection
  /-- Syscall argument, or one of the reserved pseudo arguments. -/
  argIndex : ℤ
  /-- Address in the traced process. -/
  userPtr : UInt64
  /-- Length of the object in the traced process. -/
  userLen : UInt32
  /-- Number of bytes copied by the producer. -/
  copiedLen : UInt32
  /-- Result of the producer's copy. -/
  probeRet : Int32

/-- The section with its bytes. -/
def SectionHeader.payload (header : SectionHeader) (data : List UInt8) : PayloadSection where
  kind := header.kind
  direction := header.direction
  argIndex := header.argIndex
  userPtr := header.userPtr
  userLen := header.userLen
  copiedLen := header.copiedLen
  probeRet := header.probeRet
  data := data

/-- A payload section in memory. -/
structure Section where
  /-- All but the bytes, none in a zeroed section. -/
  header : Option SectionHeader := none
  /-- The bytes. -/
  data : Option Window := none
  deriving Inhabited

namespace Section

/-- The buffer of the bytes. -/
def buffer (s : Section) : Option Buffer := s.data.map (·.buffer)

/-- What a section shows, nothing if it is zeroed. -/
def value (heap : Heap UInt8) (s : Section) : Option PayloadSection :=
  s.header.map fun header => header.payload (heap.elements s.data)

/-- Two sections have their bytes in one buffer. -/
def Shares (a b : Section) : Prop := ∃ buffer, a.buffer=some buffer ∧ b.buffer=some buffer

end Section

/-- Bytes of the caller. -/
structure CallerSlice where
  /-- Buffer of the caller. -/
  buffer : ℕ
  /-- Position of the first byte. -/
  start : ℕ
  /-- Number of bytes. -/
  length : ℕ
  /-- Bytes there is room for. -/
  capacity : ℕ

/-- A payload section of the caller. -/
structure CallerSection where
  /-- All but the bytes. -/
  header : SectionHeader
  /-- The bytes. -/
  data : Option CallerSlice

namespace CallerSection

/-- The section in memory. -/
def toSection (payload : CallerSection) : Section where
  header := some payload.header
  data := payload.data.map fun w => ⟨.caller w.buffer,w.start,w.length,w.capacity⟩

/-- What the section shows while the caller's buffers have given contents. -/
def value (caller : ℕ → List UInt8) (payload : CallerSection) : PayloadSection :=
  payload.header.payload (({caller := caller} : Heap UInt8).elements payload.toSection.data)

end CallerSection

/-- Owner of copied payload sections. -/
structure TracePayloadStorage where
  /-- Copied sections. -/
  sections : Backed Section := {}
  /-- Temporary view, some of its sections borrowed. -/
  merged : Backed Section := {}

/-- Sizes the runtime chooses. -/
structure Allocator where
  /-- For arrays of sections. -/
  sections : Growth
  /-- For buffers. -/
  bytes : Growth

/-- A storage and the memory around it. -/
structure World where
  /-- All buffers. -/
  heap : Heap UInt8
  /-- The storage. -/
  storage : TracePayloadStorage

/-- A section after clearing, with its buffer unless that is large. -/
def resetSection (s : Section) : Section where
  data :=
    match s.data with
    | none => none
    | some w => if w.capacity > tracePayloadStorageMaxRetainedBytes then none else some w.truncate

/-- Clear a storage. -/
def TracePayloadStorage.reset (storage : TracePayloadStorage) : TracePayloadStorage where
  sections := (storage.sections.mapVisible resetSection).truncate
  merged := (storage.merged.mapVisible fun _ => {}).truncate

/-- A list of sections describes the user object of a section. -/
def hasEquivalent (heap : Heap UInt8) (sections : List Section) (want : Section) : Bool :=
  (want.value heap).any (hasEquivalentPayloadSection (sections.filterMap (Section.value heap)))

namespace World

variable (A : Allocator) (w : World)

/-- One more section, kept or zeroed. -/
def nextSection (sections : Backed Section) : Backed Section :=
  if sections.hidden=[] then sections.append A.sections [{}] else sections.extend

/-- Copy one section behind the stored ones. -/
def appendOwned (payload : Section) : World :=
  let index := w.storage.sections.visible.length
  let sections := nextSection A w.storage.sections
  let data := (sections.visible.getD index {}).data
  let bytes := w.heap.elements payload.data
  if bytes=[] then
    let stored := {payload with data := data.map Window.truncate}
    {w with storage := {w.storage with sections := sections.set index stored}}
  else
    let (heap,data) := w.heap.refill A.bytes data bytes
    let stored := {payload with data := data}
    ⟨heap,{w.storage with sections := sections.set index stored}⟩

/-- Clear the storage. -/
def reset : World := {w with storage := w.storage.reset}

/-- Replace the sections by copies. -/
def copyFrom (payloads : List Section) : World := payloads.foldl (appendOwned A) w.reset

/-- View of the stored sections that an exit does not repeat, then the exit's own. -/
def mergeView (current : List Section) : World×List Section :=
  if current=[] then (w,w.storage.sections.visible)
  else
    let kept := w.storage.sections.visible.foldl (fun merged s =>
      if hasEquivalent w.heap current s then merged else merged.append A.sections [s])
      w.storage.merged.truncate
    let merged := kept.append A.sections current
    ({w with storage := {w.storage with merged := merged}},merged.visible)

/-- What the stored sections show. -/
def shown : List (Option PayloadSection) :=
  w.storage.sections.visible.map (Section.value w.heap)

/-- The caller writes its buffers. -/
def rewrite (caller : ℕ → List UInt8) : World := {w with heap := {w.heap with caller := caller}}

end World

end Storages

section Invariant

/-- Buffers of sections. -/
def buffers (sections : List Section) : List Buffer := sections.filterMap Section.buffer

/-- Every section of a storage has a buffer for itself, and those not in use show nothing. -/
structure Sound (w : World) : Prop where
  /-- Buffers are the storage's own. -/
  owned : ∀ s∈w.storage.sections.cells, ∀ win, s.data=some win → w.heap.Holds win
  /-- No buffer has two sections. -/
  distinct : (buffers w.storage.sections.cells).Nodup
  /-- Sections not in use are zeroed, their buffers empty. -/
  blank : ∀ s∈w.storage.sections.hidden, s.header=none ∧ ∀ win, s.data=some win → win.length=0

variable {A : Allocator} {w : World} {heap : Heap UInt8} {s payload : Section}

theorem buffers_append (front back : List Section) :
    buffers (front ++ back)=buffers front ++ buffers back :=
  List.filterMap_append

theorem mem_buffers {sections : List Section} {buffer : Buffer} (hs : s∈sections)
    (h : s.buffer=some buffer) : buffer∈buffers sections :=
  List.mem_filterMap.mpr ⟨s,hs,h⟩

/-- The buffer of one section is not that of another. -/
theorem buffer_ne_of_nodup (front : List Section) {back : List Section} {new : Section}
    {buffer : Buffer} (h : (buffers (front ++ new::back)).Nodup) (hnew : new.buffer=some buffer)
    (hs : s∈front ++ back) : s.buffer≠some buffer := by
  intro hsame
  have hcons : buffers (new::back)=buffer::buffers back := List.filterMap_cons_some hnew
  rw [buffers_append,hcons,List.nodup_middle,←buffers_append,List.nodup_cons] at h
  exact h.1 (mem_buffers hs hsame)

/-- A section shows the same while its buffer has the same contents. -/
theorem value_congr {other : Heap UInt8}
    (h : ∀ win, s.data=some win → other.read win.buffer=heap.read win.buffer) :
    s.value other=s.value heap := by
  unfold Section.value
  rw [Heap.elements_congr h]

/-- The next section is a kept one, or a zeroed one. -/
theorem nextSection_spec (A : Allocator) (sections : Backed Section) :
    ∃ old rest, World.nextSection A sections=⟨sections.visible ++ [old],rest⟩ ∧
      buffers (old::rest)=buffers sections.hidden ∧ ∀ s∈old::rest, s∈sections.hidden ∨ s={} := by
  obtain ⟨visible,hidden⟩ := sections
  unfold World.nextSection
  cases hidden with
  | nil =>
    have hblank : ∀ s∈({}:Section)::(Backed.append ⟨visible,[]⟩ A.sections [{}]).hidden, s={} := by
      intro s hs
      rcases List.mem_cons.mp hs with rfl | hs
      · rfl
      · exact (Backed.mem_hidden_append hs).resolve_left List.not_mem_nil
    rw [if_pos rfl]
    refine ⟨{},(Backed.append ⟨visible,[]⟩ A.sections [{}]).hidden,?_,?_,
      fun s hs => Or.inr (hblank s hs)⟩
    · rw [←Backed.visible_append A.sections [{}] (s := ⟨visible,[]⟩)]
    · refine List.filterMap_eq_nil_iff.mpr fun s hs => ?_
      rw [hblank s hs]
      rfl
  | cons old rest =>
    rw [if_neg (List.cons_ne_nil old rest)]
    exact ⟨old,rest,rfl,rfl,fun s hs => Or.inl hs⟩

/-- What copying one section does to the memory. -/
structure Copied (w : World) (payload old : Section) (heap : Heap UInt8) (data : Option Window) :
    Prop where
  /-- The bytes are copied. -/
  bytes : heap.elements data=w.heap.elements payload.data
  /-- The copy is in a buffer of the storage. -/
  holds : ∀ win, data=some win → heap.Holds win
  /-- The buffer is the one at its place before, or new. -/
  buffer : data.map (·.buffer)=old.buffer ∨
    ∃ fresh, data.map (·.buffer)=some fresh ∧ ¬w.heap.Allocated fresh
  /-- Every other buffer keeps its contents. -/
  frame : ∀ other, w.heap.Allocated other → data.map (·.buffer)≠some other →
    heap.read other=w.heap.read other
  /-- Buffers stay allocated. -/
  grows : w.heap.owned.length ≤ heap.owned.length
  /-- The caller's buffers are not written. -/
  caller : heap.caller=w.heap.caller

/-- A copied section takes the place of the next one. -/
theorem appendOwned_eq (h : Sound w) (payload : Section) :
    ∃ old rest heap data,
      buffers (old::rest)=buffers w.storage.sections.hidden ∧
      (∀ s∈old::rest, s∈w.storage.sections.hidden ∨ s={}) ∧
      w.appendOwned A payload=⟨heap,{w.storage with
        sections := ⟨w.storage.sections.visible ++ [{payload with data := data}],rest⟩}⟩ ∧
      Copied w payload old heap data := by
  obtain ⟨old,rest,hnext,hbuffers,hkept⟩ := nextSection_spec A w.storage.sections
  have hholds : ∀ win, old.data=some win → w.heap.Holds win := by
    intro win hwin
    rcases hkept old List.mem_cons_self with hmem | hzero
    · exact h.owned old (List.mem_append_right _ hmem) win hwin
    · rw [hzero] at hwin
      exact absurd hwin.symm (Option.some_ne_none _)
  have hset : ∀ x : Section, Backed.set ⟨w.storage.sections.visible ++ [old],rest⟩
      w.storage.sections.visible.length x=⟨w.storage.sections.visible ++ [x],rest⟩ := by
    intro x
    rw [Backed.set,List.set_append_right _ _ (Nat.le_refl _),Nat.sub_self]
    rfl
  have hget : (w.storage.sections.visible ++ [old]).getD
      w.storage.sections.visible.length {}=old := by
    rw [List.getD_eq_getElem?_getD,List.getElem?_concat_length,Option.getD_some]
  unfold World.appendOwned
  dsimp only
  rw [hnext]
  dsimp only
  rw [hget]
  split_ifs with hempty
  · refine ⟨old,rest,w.heap,old.data.map Window.truncate,hbuffers,hkept,?_,?_⟩
    · rw [hset]
    · constructor
      · rw [hempty,Heap.elements_truncate]
      · intro win hwin
        obtain ⟨before,hbefore,rfl⟩ := Option.map_eq_some_iff.mp hwin
        exact (hholds before hbefore).truncate
      · rw [Option.map_map]
        exact Or.inl rfl
      · exact fun _ _ _ => rfl
      · exact Nat.le_refl _
      · rfl
  · obtain ⟨win,hwin,hrefilled⟩ := Heap.refill_refilled A.bytes hholds hempty
    refine ⟨old,rest,(w.heap.refill A.bytes old.data (w.heap.elements payload.data)).1,some win,
      hbuffers,hkept,?_,?_⟩
    · rw [hset,←hwin]
    · constructor
      · exact hrefilled.shows
      · intro other hother
        rw [←Option.some.inj hother]
        exact hrefilled.holds
      · rcases hrefilled.buffer with hsame | hfresh
        · exact Or.inl hsame.symm
        · exact Or.inr ⟨win.buffer,rfl,hfresh⟩
      · intro other hallocated hne
        exact hrefilled.frame other hallocated fun heq => hne (congrArg some heq.symm)
      · exact hrefilled.grows
      · exact hrefilled.caller

theorem buffers_cons_congr {a b : Section} (h : a.buffer=b.buffer) (rest : List Section) :
    buffers (a::rest)=buffers (b::rest) := by
  unfold buffers
  rw [List.filterMap_cons,List.filterMap_cons,h]

/-- A section of a new buffer has it for itself. -/
theorem nodup_fresh {front back : List Section} {old new : Section} {fresh : Buffer}
    (h : (buffers (front ++ old::back)).Nodup) (hnew : new.buffer=some fresh)
    (hfresh : ∀ s∈front ++ back, s.buffer≠some fresh) : (buffers (front ++ new::back)).Nodup := by
  have hcons : buffers (new::back)=fresh::buffers back := List.filterMap_cons_some hnew
  have hsub : (front ++ back).Sublist (front ++ old::back) :=
    List.Sublist.append_left (List.sublist_cons_self old back) front
  rw [buffers_append,hcons,List.nodup_middle,←buffers_append,List.nodup_cons]
  constructor
  · intro hmem
    obtain ⟨s,hs,hbuffer⟩ := List.mem_filterMap.mp hmem
    exact hfresh s hs hbuffer
  · exact h.sublist (hsub.filterMap _)

/-- A slice of another buffer stays in its array. -/
theorem holds_frame {heap other : Heap UInt8} {win : Window} (h : heap.Holds win)
    (hread : other.read win.buffer=heap.read win.buffer)
    (hgrows : heap.owned.length ≤ other.owned.length) : other.Holds win where
  own := by
    obtain ⟨n,hlt,heq⟩ := h.own
    exact ⟨n,Nat.lt_of_lt_of_le hlt hgrows,heq⟩
  front := h.front
  room := by rw [hread,h.room]
  fits := h.fits

/-- Copying one section keeps the buffers apart and adds what the section shows. -/
structure Appended (w : World) (payload : Section) (after : World) : Prop where
  /-- Every section has a buffer for itself. -/
  sound : Sound after
  /-- The section is behind the stored ones. -/
  shown : after.shown=w.shown ++ [payload.value w.heap]
  /-- The caller's buffers are not written. -/
  caller : after.heap.caller=w.heap.caller

theorem appendOwned_appended (A : Allocator) (h : Sound w) (payload : Section) :
    Appended w payload (w.appendOwned A payload) := by
  obtain ⟨old,rest,heap,data,hbuffers,hkept,heq,hcopied⟩ := appendOwned_eq (A := A) h payload
  rw [heq]
  have hcells : (buffers (w.storage.sections.visible ++ old::rest)).Nodup := by
    rw [buffers_append,hbuffers,←buffers_append]
    exact h.distinct
  have hbefore : ∀ s∈w.storage.sections.visible ++ old::rest, ∀ win, s.data=some win →
      w.heap.Holds win := by
    intro s hs win hwin
    rcases List.mem_append.mp hs with hvisible | hbehind
    · exact h.owned s (List.mem_append_left _ hvisible) win hwin
    · rcases hkept s hbehind with hmem | hzero
      · exact h.owned s (List.mem_append_right _ hmem) win hwin
      · rw [hzero] at hwin
        exact absurd hwin.symm (Option.some_ne_none _)
  have hothers : ∀ s∈w.storage.sections.visible ++ rest,
      s∈w.storage.sections.visible ++ old::rest := by
    intro s hs
    rw [List.mem_append] at hs ⊢
    exact hs.imp_right (List.mem_cons_of_mem old)
  have hdistinct : (buffers (w.storage.sections.visible ++
      ({payload with data := data}:Section)::rest)).Nodup := by
    rcases hcopied.buffer with hsame | ⟨fresh,hnew,hfresh⟩
    · rw [buffers_append,buffers_cons_congr (show Section.buffer {payload with data := data}=_
        from hsame),←buffers_append]
      exact hcells
    · refine nodup_fresh hcells hnew ?_
      intro s hs hbuffer
      obtain ⟨win,hwin,hsame⟩ := Option.map_eq_some_iff.mp hbuffer
      rw [←hsame] at hfresh
      exact hfresh (hbefore s (hothers s hs) win hwin).allocated
  have hread : ∀ s∈w.storage.sections.visible ++ rest, ∀ win, s.data=some win →
      heap.read win.buffer=w.heap.read win.buffer := by
    intro s hs win hwin
    apply hcopied.frame _ (hbefore s (hothers s hs) win hwin).allocated
    intro hnew
    apply buffer_ne_of_nodup _ hdistinct hnew hs
    rw [Section.buffer,hwin,Option.map_some]
  refine ⟨⟨?_,?_,?_⟩,?_,hcopied.caller⟩
  · intro s hs win hwin
    rw [Backed.cells,List.append_assoc,List.singleton_append,List.mem_append,List.mem_cons] at hs
    rw [←or_assoc,or_right_comm,←List.mem_append] at hs
    rcases hs with hother | rfl
    · exact holds_frame (hbefore s (hothers s hother) win hwin) (hread s hother win hwin)
        hcopied.grows
    · exact hcopied.holds win hwin
  · rw [Backed.cells,List.append_assoc,List.singleton_append]
    exact hdistinct
  · intro s hs
    rcases hkept s (List.mem_cons_of_mem old hs) with hmem | rfl
    · exact h.blank s hmem
    · exact ⟨rfl,fun win hwin => absurd hwin.symm (Option.some_ne_none _)⟩
  · unfold World.shown
    rw [List.map_append,List.map_singleton]
    congr 1
    · refine List.map_congr_left fun s hs => value_congr ?_
      exact hread s (List.mem_append_left _ hs)
    · unfold Section.value
      rw [hcopied.bytes]

theorem sound_empty (heap : Heap UInt8) : Sound ⟨heap,{}⟩ where
  owned := fun _ hs => absurd hs List.not_mem_nil
  distinct := List.nodup_nil
  blank := fun _ hs => absurd hs List.not_mem_nil

/-- Clearing keeps the buffer of a section, or drops it. -/
theorem resetSection_data {win : Window} (hwin : (resetSection s).data=some win) :
    ∃ before, s.data=some before ∧ win=before.truncate := by
  unfold resetSection at hwin
  cases hdata : s.data with
  | none =>
    rw [hdata] at hwin
    exact absurd hwin.symm (Option.some_ne_none _)
  | some before =>
    rw [hdata] at hwin
    dsimp only at hwin
    split_ifs at hwin with hlarge
    exact ⟨before,rfl,(Option.some.inj hwin).symm⟩

theorem buffers_map_resetSection (sections : List Section) :
    (buffers (sections.map resetSection)).Sublist (buffers sections) := by
  induction sections with
  | nil => exact List.Sublist.refl _
  | cons s rest ih =>
    rw [List.map_cons]
    unfold buffers at ih ⊢
    cases hreset : (resetSection s).buffer with
    | none =>
      rw [List.filterMap_cons_none hreset]
      exact ih.trans ((List.sublist_cons_self s rest).filterMap _)
    | some buffer =>
      obtain ⟨win,hwin,hbuffer⟩ := Option.map_eq_some_iff.mp hreset
      obtain ⟨before,hbefore,rfl⟩ := resetSection_data hwin
      have hs : s.buffer=some buffer := by
        rw [Section.buffer,hbefore,Option.map_some,←hbuffer]
        rfl
      rw [List.filterMap_cons_some hreset,List.filterMap_cons_some hs]
      exact ih.cons_cons buffer

/-- Clearing keeps the buffers apart. -/
theorem reset_sound (h : Sound w) : Sound w.reset where
  owned := by
    intro s hs win hwin
    change s∈w.storage.sections.visible.map resetSection ++ w.storage.sections.hidden at hs
    rcases List.mem_append.mp hs with hcleared | hbehind
    · obtain ⟨before,hbefore,rfl⟩ := List.mem_map.mp hcleared
      obtain ⟨slice,hslice,rfl⟩ := resetSection_data hwin
      exact (h.owned before (List.mem_append_left _ hbefore) slice hslice).truncate
    · exact h.owned s (List.mem_append_right _ hbehind) win hwin
  distinct := by
    change (buffers (w.storage.sections.visible.map resetSection ++
      w.storage.sections.hidden)).Nodup
    rw [buffers_append]
    have hdistinct := h.distinct
    rw [Backed.cells,buffers_append] at hdistinct
    exact hdistinct.sublist ((buffers_map_resetSection _).append_right _)
  blank := by
    intro s hs
    change s∈w.storage.sections.visible.map resetSection ++ w.storage.sections.hidden at hs
    rcases List.mem_append.mp hs with hcleared | hbehind
    · obtain ⟨before,-,rfl⟩ := List.mem_map.mp hcleared
      refine ⟨rfl,fun win hwin => ?_⟩
      obtain ⟨slice,-,rfl⟩ := resetSection_data hwin
      rfl
    · exact h.blank s hbehind

/-- What a section of the caller shows depends on the caller's buffers alone. -/
theorem value_toSection (heap : Heap UInt8) (payload : CallerSection) :
    payload.toSection.value heap=some (payload.value heap.caller) := by
  have hbytes : heap.elements payload.toSection.data=
      ({caller := heap.caller} : Heap UInt8).elements payload.toSection.data := by
    refine Heap.elements_congr fun win hwin => ?_
    obtain ⟨slice,-,rfl⟩ := Option.map_eq_some_iff.mp hwin
    rfl
  change some (payload.header.payload (heap.elements payload.toSection.data))=_
  rw [hbytes]
  rfl

/-- Copying sections keeps the buffers apart and adds what the sections show. -/
structure Extended (w : World) (added : List PayloadSection) (after : World) : Prop where
  /-- Every section has a buffer for itself. -/
  sound : Sound after
  /-- The sections are behind the stored ones. -/
  shown : after.shown=w.shown ++ added.map some
  /-- The caller's buffers are not written. -/
  caller : after.heap.caller=w.heap.caller

theorem Extended.refl (h : Sound w) : Extended w [] w := ⟨h,(List.append_nil _).symm,rfl⟩

theorem Extended.trans {first second : List PayloadSection} {mid after : World}
    (h : Extended w first mid) (h' : Extended mid second after) :
    Extended w (first ++ second) after where
  sound := h'.sound
  shown := by rw [h'.shown,h.shown,List.map_append,List.append_assoc]
  caller := h'.caller.trans h.caller

/-- Copying one section of the caller. -/
theorem appendOwned_extended (A : Allocator) (h : Sound w) (payload : CallerSection) :
    Extended w [payload.value w.heap.caller] (w.appendOwned A payload.toSection) := by
  have happended := appendOwned_appended A h payload.toSection
  refine ⟨happended.sound,?_,happended.caller⟩
  rw [happended.shown,value_toSection]
  rfl

/-- Copying sections of the caller one by one. -/
theorem foldl_appendOwned_extended (A : Allocator) (h : Sound w) (payloads : List CallerSection) :
    Extended w (payloads.map (CallerSection.value w.heap.caller))
      ((payloads.map CallerSection.toSection).foldl (World.appendOwned A) w) := by
  induction payloads generalizing w with
  | nil => exact Extended.refl h
  | cons payload rest ih =>
    have hfirst := appendOwned_extended A h payload
    have hrest := ih hfirst.sound
    rw [hfirst.caller] at hrest
    exact hfirst.trans hrest

/-- Replacing the sections leaves copies of the given ones. -/
theorem copyFrom_extended (A : Allocator) (h : Sound w) (payloads : List CallerSection) :
    Extended w.reset (payloads.map (CallerSection.value w.heap.caller))
      (w.copyFrom A (payloads.map CallerSection.toSection)) :=
  foldl_appendOwned_extended A (reset_sound h) payloads

/-- Own buffers do not change with the caller's. -/
theorem read_rewrite {win : Window} (h : w.heap.Holds win) (caller : ℕ → List UInt8) :
    (w.rewrite caller).heap.read win.buffer=w.heap.read win.buffer := by
  obtain ⟨n,-,heq⟩ := h.own
  rw [heq]
  rfl

theorem rewrite_sound (h : Sound w) (caller : ℕ → List UInt8) : Sound (w.rewrite caller) where
  owned := fun s hs win hwin =>
    holds_frame (h.owned s hs win hwin) (read_rewrite (h.owned s hs win hwin) caller)
      (Nat.le_refl _)
  distinct := h.distinct
  blank := h.blank

/-- What is stored does not change with the caller's buffers. -/
theorem shown_rewrite (h : Sound w) (caller : ℕ → List UInt8) :
    (w.rewrite caller).shown=w.shown := by
  refine List.map_congr_left fun s hs => value_congr fun win hwin => ?_
  exact read_rewrite (h.owned s (List.mem_append_left _ hs) win hwin) caller

/-- A merged view is a view: the memory and the stored sections stay. -/
theorem mergeView_frame (A : Allocator) (w : World) (current : List Section) :
    (w.mergeView A current).1.heap=w.heap ∧
      (w.mergeView A current).1.storage.sections=w.storage.sections := by
  unfold World.mergeView
  split_ifs with hempty
  · exact ⟨rfl,rfl⟩
  · exact ⟨rfl,rfl⟩

theorem mergeView_sound (A : Allocator) (h : Sound w) (current : List Section) :
    Sound (w.mergeView A current).1 := by
  obtain ⟨hheap,hsections⟩ := mergeView_frame A w current
  refine ⟨?_,?_,?_⟩
  · rw [hheap,hsections]
    exact h.owned
  · rw [hsections]
    exact h.distinct
  · rw [hsections]
    exact h.blank

/-- The view holds the sections that are not repeated, then the current ones. -/
theorem mergeView_view (A : Allocator) (w : World) (current : List Section) :
    (w.mergeView A current).2=
      w.storage.sections.visible.filter (fun s => !hasEquivalent w.heap current s) ++
        current := by
  unfold World.mergeView
  split_ifs with hempty
  · rw [hempty,List.append_nil]
    refine (List.filter_eq_self.mpr fun s _ => ?_).symm
    unfold hasEquivalent
    cases s.value w.heap with
    | none => rfl
    | some value => rfl
  · dsimp only
    rw [Backed.visible_append,Backed.visible_foldl_append]
    rfl

theorem filterMap_toSection (heap : Heap UInt8) (payloads : List CallerSection) :
    (payloads.map CallerSection.toSection).filterMap (Section.value heap)=
      payloads.map (CallerSection.value heap.caller) := by
  induction payloads with
  | nil => rfl
  | cons payload rest ih =>
    rw [List.map_cons,List.filterMap_cons_some (value_toSection heap payload),ih,List.map_cons]

end Invariant

section Runs

/-- One call on a storage. -/
inductive Call where
  | copyFrom (payloads : List CallerSection)
  | appendOwned (payload : CallerSection)
  | mergeView (current : List CallerSection)
  | reset

/-- The sections a caller gives. -/
def Call.inputs : Call → List CallerSection
  | .copyFrom payloads => payloads
  | .appendOwned payload => [payload]
  | .mergeView current => current
  | .reset => []

/-- A call, with what the caller has written into its buffers by then. -/
structure Step where
  /-- Contents of the caller's buffers. -/
  caller : ℕ → List UInt8
  /-- The call. -/
  call : Call

/-- Memory and storage after a call. -/
def World.apply (A : Allocator) (w : World) (step : Step) : World :=
  let w := w.rewrite step.caller
  match step.call with
  | .copyFrom payloads => w.copyFrom A (payloads.map CallerSection.toSection)
  | .appendOwned payload => w.appendOwned A payload.toSection
  | .mergeView current => (w.mergeView A (current.map CallerSection.toSection)).1
  | .reset => w.reset

/-- A new storage, nothing allocated. -/
def World.initial : World := ⟨{caller := fun _ => []},{}⟩

/-- Memory and storage after a history of calls. -/
def World.run (A : Allocator) (steps : List Step) : World := steps.foldl (apply A) initial

/-- Sections given since the last call that clears, as they were when they were given. -/
def givenBy (given : List PayloadSection) (step : Step) : List PayloadSection :=
  match step.call with
  | .copyFrom payloads => payloads.map (CallerSection.value step.caller)
  | .appendOwned payload => given ++ [payload.value step.caller]
  | .mergeView _ => given
  | .reset => []

/-- Sections given in a history since it last cleared. -/
def given (steps : List Step) : List PayloadSection := steps.foldl givenBy []

/-- A storage in order that shows given sections. -/
structure Keeps (w : World) (given : List PayloadSection) : Prop where
  /-- Every section has a buffer for itself. -/
  sound : Sound w
  /-- The sections show what was given. -/
  shown : w.shown=given.map some

variable {A : Allocator} {w : World} {stored : List PayloadSection}

/-- One call keeps a storage in order. -/
theorem Keeps.apply (A : Allocator) (h : Keeps w stored) (step : Step) :
    Keeps (w.apply A step) (givenBy stored step) := by
  have hsound := rewrite_sound h.sound step.caller
  have hshown := (shown_rewrite h.sound step.caller).trans h.shown
  unfold World.apply givenBy
  dsimp only
  cases step.call with
  | copyFrom payloads =>
    have hcopied := copyFrom_extended A hsound payloads
    exact ⟨hcopied.sound,hcopied.shown⟩
  | appendOwned payload =>
    have happended := appendOwned_extended A hsound payload
    refine ⟨happended.sound,?_⟩
    dsimp only
    rw [happended.shown,hshown,List.map_append]
    rfl
  | mergeView current =>
    refine ⟨mergeView_sound A hsound _,?_⟩
    obtain ⟨hheap,hsections⟩ := mergeView_frame A (w.rewrite step.caller)
      (current.map CallerSection.toSection)
    dsimp only
    rw [World.shown,hheap,hsections]
    exact hshown
  | reset => exact ⟨reset_sound hsound,rfl⟩

/-- Every history keeps a storage in order. -/
theorem keeps_run (A : Allocator) (steps : List Step) :
    Keeps (World.run A steps) (given steps) := by
  unfold World.run given
  have hrun : ∀ w stored, Keeps w stored →
      Keeps (steps.foldl (World.apply A) w) (steps.foldl givenBy stored) := by
    induction steps with
    | nil => exact fun _ _ h => h
    | cons step rest ih => exact fun w stored h => ih _ _ (h.apply A step)
  exact hrun _ _ ⟨sound_empty _,rfl⟩

/-- Stored sections are in buffers of their own. -/
theorem Sound.pairwise (h : Sound w) :
    w.storage.sections.visible.Pairwise fun a b => ¬a.Shares b := by
  have hvisible : (buffers w.storage.sections.visible).Nodup := by
    have hdistinct := h.distinct
    rw [Backed.cells,buffers_append] at hdistinct
    exact hdistinct.of_append_left
  generalize w.storage.sections.visible=sections at hvisible
  induction sections with
  | nil => exact List.Pairwise.nil
  | cons s rest ih =>
    have hrest := hvisible.sublist ((List.sublist_cons_self s rest).filterMap Section.buffer)
    refine List.Pairwise.cons ?_ (ih hrest)
    rintro other hother ⟨buffer,hs,hsame⟩
    exact buffer_ne_of_nodup [] hvisible hs hother hsame

/-- No stored section is in a buffer of the caller. -/
theorem Sound.apart (h : Sound w) {s : Section} (hs : s∈w.storage.sections.visible)
    (payload : CallerSection) : ¬s.Shares payload.toSection := by
  rintro ⟨buffer,hbuffer,hinput⟩
  obtain ⟨win,hwin,rfl⟩ := Option.map_eq_some_iff.mp hbuffer
  obtain ⟨n,-,hown⟩ := (h.owned s (List.mem_append_left _ hs) win hwin).own
  obtain ⟨slice,hslice,heq⟩ := Option.map_eq_some_iff.mp hinput
  obtain ⟨before,-,rfl⟩ := Option.map_eq_some_iff.mp hslice
  rw [hown] at heq
  exact Buffer.noConfusion heq

/-- What an exit sees of stored sections and its own. -/
def exitView (stored current : List PayloadSection) : List PayloadSection :=
  stored.filter (fun s => !hasEquivalentPayloadSection current s) ++ current

/-- The merged view shows what the exit is to see. -/
theorem Keeps.view (A : Allocator) (h : Keeps w stored) (current : List CallerSection) :
    (w.mergeView A (current.map CallerSection.toSection)).2.map (Section.value w.heap)=
      (exitView stored (current.map (CallerSection.value w.heap.caller))).map some := by
  have hstored : (w.storage.sections.visible.filter fun s =>
      !hasEquivalent w.heap (current.map CallerSection.toSection) s).map (Section.value w.heap)=
      (stored.filter fun s => !hasEquivalentPayloadSection
        (current.map (CallerSection.value w.heap.caller)) s).map some := by
    unfold hasEquivalent
    rw [filterMap_toSection]
    have hvalues := congrArg (List.filter fun value : Option PayloadSection =>
      !value.any (hasEquivalentPayloadSection
        (current.map (CallerSection.value w.heap.caller)))) h.shown
    rw [World.shown,List.filter_map,List.filter_map] at hvalues
    exact hvalues
  have hcurrent : (current.map CallerSection.toSection).map (Section.value w.heap)=
      (current.map (CallerSection.value w.heap.caller)).map some := by
    rw [List.map_map,List.map_map]
    exact List.map_congr_left fun payload _ => value_toSection w.heap payload
  rw [mergeView_view,List.map_append,hstored,hcurrent,exitView,List.map_append]

/-- The call on the values of a storage. -/
def applyValues (storage : EventPayloadStorage.TracePayloadStorage) (step : Step) :
    EventPayloadStorage.TracePayloadStorage :=
  match step.call with
  | .copyFrom payloads => storage.copyFrom (payloads.map (CallerSection.value step.caller))
  | .appendOwned payload => storage.appendOwned (payload.value step.caller)
  | .mergeView current => (storage.mergeView (current.map (CallerSection.value step.caller))).1
  | .reset => storage.reset

theorem sections_applyValues (storage : EventPayloadStorage.TracePayloadStorage) (step : Step) :
    (applyValues storage step).sections=givenBy storage.sections step := by
  unfold applyValues givenBy
  cases step.call with
  | copyFrom payloads => exact EventPayloadStorage.TracePayloadStorage.sections_copyFrom ..
  | appendOwned payload => rfl
  | mergeView current =>
    dsimp only [EventPayloadStorage.TracePayloadStorage.mergeView]
    split_ifs <;> rfl
  | reset => rfl

/-- A storage in memory shows what the storage of values holds. -/
theorem keeps_values (A : Allocator) (steps : List Step) :
    Keeps (World.run A steps) (steps.foldl applyValues {}).sections := by
  have hvalues : ∀ storage, (steps.foldl applyValues storage).sections=
      steps.foldl givenBy storage.sections := by
    induction steps with
    | nil => exact fun _ => rfl
    | cons step rest ih =>
      intro storage
      rw [List.foldl_cons,ih,sections_applyValues,List.foldl_cons]
  rw [hvalues]
  exact keeps_run A steps

/-- A storage that exposes nothing. -/
structure Cleared (w : World) : Prop where
  /-- No section is stored. -/
  sections : w.storage.sections.visible=[]
  /-- The view is empty. -/
  merged : w.storage.merged.visible=[]
  /-- The sections kept for reuse show nothing, not even through their buffers. -/
  kept : ∀ s∈w.storage.sections.hidden, s.value w.heap=none ∧ w.heap.elements s.data=[]

/-- A cleared storage exposes nothing. -/
theorem Sound.cleared (h : Sound w) : Cleared w.reset where
  sections := rfl
  merged := rfl
  kept := by
    intro s hs
    obtain ⟨hheader,hempty⟩ := (reset_sound h).blank s hs
    constructor
    · rw [Section.value,hheader,Option.map_none]
    · cases hdata : s.data with
      | none => rfl
      | some win =>
        simp only [Heap.elements,hempty win hdata,List.take_zero]

/-- After every history of calls the stored sections are the given ones whatever the caller writes
into its buffers, each in a buffer that is neither another section's nor the caller's; a view
shows these and the current sections alone, and a cleared storage exposes nothing. -/
theorem recycled_storage_is_private (A : Allocator) (steps : List Step) :
    (∀ caller, ((World.run A steps).rewrite caller).shown=(given steps).map some) ∧
      (World.run A steps).storage.sections.visible.Pairwise (fun a b => ¬a.Shares b) ∧
      (∀ step∈steps, ∀ payload∈step.call.inputs,
        ∀ s∈(World.run A steps).storage.sections.visible, ¬s.Shares payload.toSection) ∧
      (∀ (caller : ℕ → List UInt8) (current : List CallerSection),
        (((World.run A steps).rewrite caller).mergeView A
          (current.map CallerSection.toSection)).2.map
            (Section.value ((World.run A steps).rewrite caller).heap)=
          (exitView (given steps) (current.map (CallerSection.value caller))).map some) ∧
      ∀ caller, Cleared ((World.run A steps).apply A ⟨caller,.reset⟩) := by
  have hkeeps := keeps_run A steps
  have hrewritten : ∀ caller, Keeps ((World.run A steps).rewrite caller) (given steps) :=
    fun caller => ⟨rewrite_sound hkeeps.sound caller,
      (shown_rewrite hkeeps.sound caller).trans hkeeps.shown⟩
  refine ⟨fun caller => (hrewritten caller).shown,hkeeps.sound.pairwise,?_,?_,?_⟩
  · exact fun _ _ payload _ s hs => hkeeps.sound.apart hs payload
  · exact fun caller current => (hrewritten caller).view A current
  · exact fun caller => (hrewritten caller).sound.cleared

end Runs

end StraceGo.PayloadBuffers

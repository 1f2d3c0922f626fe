import StraceGo.EventEnvelope
import StraceGo.ObjectPool

/-!
# Owned payload sections

Payload sections borrowed from the ring buffer are copied into storages that
the correlation state recycles. A pending syscall holds a storage and a slice
over it. Merging skips a section equivalent to a stored one; two sections are
equivalent when they describe the same user object, where nested descriptor
paths also compare the decoded descriptor.

A reused storage is not cleared when a merge acquires it, so the merge is right
only because every release clears. The lemmas below carry that along.
-/

namespace StraceGo.EventPayloadStorage

open EventEnvelope ObjectPool

/-- Pseudo argument of descriptor paths found inside captured memory. -/
def payloadFDPathNestedArgIndex : ℤ := 0xfffd

/-- Bytes of the descriptor observation in front of a captured path. -/
def fdPathStatePrefixSize : ℕ := 48

/-- Flag bits a descriptor observation may carry. -/
def fdStateFlags : UInt32 := 3

/-- Little-endian word at an offset. -/
def littleEndianUint32 (data : List UInt8) (offset : ℕ) : UInt32 :=
  (data.getD offset 0).toUInt32 ||| (data.getD (offset+1) 0).toUInt32 <<< 8 |||
    (data.getD (offset+2) 0).toUInt32 <<< 16 ||| (data.getD (offset+3) 0).toUInt32 <<< 24

/-- Descriptor observed in front of a captured path, when both decode. -/
def nestedFDPathSnapshotFD (payload : PayloadSection) : Option Int32 :=
  let fd := (littleEndianUint32 payload.data 0).toInt32
  let flags := littleEndianUint32 payload.data 4
  if payload.data.length < fdPathStatePrefixSize then none
  else if fd < 0 ∨ flags &&& ~~~fdStateFlags ≠ 0 then none
  else if (payload.data.drop fdPathStatePrefixSize).all (·==0) then none
  else some fd

/-- Nested descriptor paths are told apart by their descriptor. -/
def nestedFDPathIdentityMatches (left right : PayloadSection) : Bool :=
  if left.kind≠.fdPath ∨ left.argIndex≠payloadFDPathNestedArgIndex then true
  else nestedFDPathSnapshotFD left==nestedFDPathSnapshotFD right

/-- Whether a list already describes the user object of a section. -/
def hasEquivalentPayloadSection (sections : List PayloadSection) (want : PayloadSection) : Bool :=
  sections.any fun stored =>
    stored.kind==want.kind && stored.direction==want.direction &&
      stored.argIndex==want.argIndex && stored.userPtr==want.userPtr &&
      nestedFDPathIdentityMatches stored want

/-- Sections stored after merging a record's sections into stored ones. -/
def mergeSections (stored next : List PayloadSection) : List PayloadSection :=
  next.foldl (fun stored payload =>
    if hasEquivalentPayloadSection stored payload then stored else stored ++ [payload]) stored

/-- Owner of copied payload sections. -/
structure TracePayloadStorage where
  /-- Copied sections. -/
  sections : List PayloadSection := []
  /-- Temporary view handed to the router. -/
  merged : List PayloadSection := []
  deriving Inhabited

namespace TracePayloadStorage

/-- Forget the sections before reuse. -/
def reset (_storage : TracePayloadStorage) : TracePayloadStorage := {}

/-- Copy one section behind the stored ones. -/
def appendOwned (storage : TracePayloadStorage) (payload : PayloadSection) : TracePayloadStorage :=
  {storage with sections := storage.sections ++ [payload]}

/-- Replace the sections by copies. -/
def copyFrom (storage : TracePayloadStorage) (sections : List PayloadSection) :
    TracePayloadStorage :=
  sections.foldl appendOwned storage.reset

/-- Copy the sections that describe a new user object. -/
def mergeFrom (storage : TracePayloadStorage) (next : List PayloadSection) : TracePayloadStorage :=
  next.foldl (fun storage payload =>
    if hasEquivalentPayloadSection storage.sections payload then storage
    else storage.appendOwned payload) storage

/-- View of the stored sections that an exit does not repeat, then the exit's own. -/
def mergeView (storage : TracePayloadStorage) (current : List PayloadSection) :
    TracePayloadStorage×List PayloadSection :=
  if current=[] then (storage,storage.sections)
  else
    let merged := storage.sections.filter (!hasEquivalentPayloadSection current ·) ++ current
    ({storage with merged := merged},merged)

theorem sections_foldl_appendOwned (sections : List PayloadSection)
    (storage : TracePayloadStorage) :
    (sections.foldl appendOwned storage).sections=storage.sections ++ sections := by
  induction sections generalizing storage with
  | nil => rw [List.foldl_nil,List.append_nil]
  | cons payload rest ih =>
    rw [List.foldl_cons,ih,appendOwned,List.append_assoc,List.singleton_append]

theorem sections_copyFrom (storage : TracePayloadStorage) (sections : List PayloadSection) :
    (storage.copyFrom sections).sections=sections := by
  rw [copyFrom,sections_foldl_appendOwned]
  rfl

theorem sections_mergeFrom (next : List PayloadSection) (storage : TracePayloadStorage) :
    (storage.mergeFrom next).sections=mergeSections storage.sections next := by
  unfold mergeFrom mergeSections
  induction next generalizing storage with
  | nil => rfl
  | cons payload rest ih =>
    rw [List.foldl_cons,List.foldl_cons,ih]
    congr 1
    split_ifs <;> rfl

end TracePayloadStorage

/-- Storages with the stack of reusable ones. -/
abbrev PayloadPool : Type := Pool TracePayloadStorage

/-- A slice over the sections of a storage. -/
structure PayloadSlice where
  /-- Storage that owns the sections. -/
  storage : Ref
  /-- Number of visible sections. -/
  length : ℕ
  deriving DecidableEq, Inhabited

variable (p : PayloadPool)

/-- The sections a storage holds, none without a storage. -/
def storedSections (storage : Option Ref) : List PayloadSection :=
  match storage with
  | none => []
  | some ref => (p.read ref).sections

/-- The sections visible through a slice. -/
def readSections (slice : Option PayloadSlice) : List PayloadSection :=
  match slice with
  | none => []
  | some slice => (p.read slice.storage).sections.take slice.length

/-- Slice over everything a storage holds. -/
def payloadSectionsFromStorage (storage : Option Ref) : Option PayloadSlice :=
  storage.map fun ref => ⟨ref,(p.read ref).sections.length⟩

/-- Clear a storage and make it reusable. -/
def releasePayloadStorage (storage : Option Ref) : PayloadPool :=
  match storage with
  | none => p
  | some ref => p.release ref (p.read ref).reset

/-- Copy sections into a storage, none for no sections. -/
def copyPayloadSectionsIntoStorage (sections : List PayloadSection) : PayloadPool×Option Ref :=
  if sections=[] then (p,none)
  else
    let (p,ref) := p.acquire
    (p.write ref ((p.read ref).copyFrom sections),some ref)

/-- Storage a merge writes into, acquired on the first sections. -/
def mergeTarget (storage : Option Ref) : PayloadPool×Ref :=
  match storage with
  | none => p.acquire
  | some ref => (p,ref)

/-- Merge sections into a storage. -/
def mergePayloadSectionsIntoStorage (storage : Option Ref) (next : List PayloadSection) :
    PayloadPool×Option Ref :=
  if next=[] then (p,storage)
  else
    let (p,ref) := mergeTarget p storage
    (p.write ref ((p.read ref).mergeFrom next),some ref)

variable {p}

@[simp]
theorem readSections_payloadSectionsFromStorage (storage : Option Ref) :
    readSections p (payloadSectionsFromStorage p storage)=storedSections p storage := by
  cases storage with
  | none => rfl
  | some ref => exact List.take_length

/-- The storage a holder answers for. -/
def owned (storage : Option Ref) : Multiset Ref :=
  match storage with
  | none => 0
  | some ref => {ref}

@[simp]
theorem owned_none_add (held : Multiset Ref) : owned none+held=held := zero_add held

/-- Storages are free or held once, and the free ones are empty. -/
structure Sound (p : PayloadPool) (held : Multiset Ref) : Prop where
  /-- Every storage is free or held once. -/
  balanced : p.Balanced held
  /-- Reusable storages are empty. -/
  clean : p.Clean fun storage => storage.sections=[]

/-- The held storages of one pool read the same in another. -/
def Agrees (p q : PayloadPool) (held : Multiset Ref) : Prop := ∀ ref∈held, q.read ref=p.read ref

variable {q : PayloadPool} {held rest : Multiset Ref} {storage : Option Ref}
  {sections next : List PayloadSection}

theorem sound_empty : Sound {} 0 where
  balanced := Pool.balanced_empty
  clean := fun _ hmem => absurd hmem List.not_mem_nil

theorem Agrees.storedSections (h : Agrees p q held) (hsub : owned storage ⊆ held) :
    storedSections q storage=storedSections p storage := by
  cases storage with
  | none => rfl
  | some ref =>
    have hmem : ref∈held := hsub (Multiset.mem_singleton_self _)
    unfold EventPayloadStorage.storedSections
    dsimp only
    rw [h ref hmem]

theorem Agrees.payloadSectionsFromStorage (h : Agrees p q held) (hsub : owned storage ⊆ held) :
    payloadSectionsFromStorage q storage=payloadSectionsFromStorage p storage := by
  cases storage with
  | none => rfl
  | some ref =>
    have hmem : ref∈held := hsub (Multiset.mem_singleton_self _)
    unfold EventPayloadStorage.payloadSectionsFromStorage
    rw [Option.map_some,Option.map_some,h ref hmem]

theorem mergeSections_nil (stored : List PayloadSection) : mergeSections stored []=stored := rfl

/-- Clearing a held storage frees it and leaves the others. -/
theorem Sound.release (h : Sound p (owned storage+rest)) :
    Sound (releasePayloadStorage p storage) rest ∧
      Agrees p (releasePayloadStorage p storage) rest := by
  cases storage with
  | none =>
    rw [owned,zero_add] at h
    exact ⟨h,fun _ _ => rfl⟩
  | some ref =>
    rw [owned,Multiset.singleton_add] at h
    have hlt := h.balanced.lt (Multiset.mem_cons_self ref rest)
    constructor
    · constructor
      · exact Pool.release_balanced h.balanced
      · exact Pool.release_clean h.clean rfl hlt
    · intro other hmem
      apply Pool.read_release_ne
      rintro rfl
      exact (Multiset.nodup_cons.mp h.balanced.nodup).1 hmem

/-- Writing a held storage leaves the others. -/
theorem Sound.write {ref : Ref} (h : Sound p (ref::ₘrest)) (v : TracePayloadStorage) :
    Sound (p.write ref v) (ref::ₘrest) ∧ Agrees p (p.write ref v) rest ∧
      (p.write ref v).read ref=v := by
  have hmem := Multiset.mem_cons_self ref rest
  refine ⟨⟨Pool.write_balanced h.balanced,?_⟩,?_,Pool.read_write_self (h.balanced.lt hmem)⟩
  · exact Pool.write_clean h.clean (h.balanced.notMem_free hmem)
  · intro other hother
    apply Pool.read_write_ne
    rintro rfl
    exact (Multiset.nodup_cons.mp h.balanced.nodup).1 hother

/-- An acquired storage is empty and none of the held ones. -/
theorem Sound.acquire (h : Sound p held) :
    Sound p.acquire.1 (p.acquire.2::ₘheld) ∧ Agrees p p.acquire.1 held ∧
      (p.acquire.1.read p.acquire.2).sections=[] := by
  refine ⟨⟨Pool.acquire_balanced h.balanced,Pool.acquire_clean h.clean⟩,?_,?_⟩
  · intro ref hmem
    exact Pool.read_acquire (h.balanced.lt hmem)
  · exact Pool.acquired_clean (P := fun s : TracePayloadStorage => s.sections=[]) rfl h.clean

theorem Agrees.trans {r : PayloadPool} (hpq : Agrees p q held) (hqr : Agrees q r held) :
    Agrees p r held := by
  intro ref hmem
  rw [hqr ref hmem,hpq ref hmem]

/-- What one payload operation does to the storage of its holder. -/
structure Stores (p q : PayloadPool) (rest : Multiset Ref) (storage : Option Ref)
    (sections : List PayloadSection) : Prop where
  /-- The holder owns the storage. -/
  sound : Sound q (owned storage+rest)
  /-- The other storages keep their sections. -/
  agrees : Agrees p q rest
  /-- The storage holds the sections. -/
  stored : storedSections q storage=sections

/-- A copy holds exactly the copied sections. -/
theorem copy_stores (h : Sound p rest) (sections : List PayloadSection) :
    Stores p (copyPayloadSectionsIntoStorage p sections).1 rest
      (copyPayloadSectionsIntoStorage p sections).2 sections := by
  unfold copyPayloadSectionsIntoStorage
  split_ifs with hempty
  · refine ⟨?_,fun _ _ => rfl,hempty.symm⟩
    rw [owned,zero_add]
    exact h
  · obtain ⟨hsound,hagrees,-⟩ := h.acquire
    dsimp only
    obtain ⟨hwritten,hrest,hread⟩ :=
      hsound.write ((p.acquire.1.read p.acquire.2).copyFrom sections)
    refine ⟨?_,hagrees.trans hrest,?_⟩
    · rw [owned,Multiset.singleton_add]
      exact hwritten
    · rw [storedSections,hread,TracePayloadStorage.sections_copyFrom]

/-- The target of a merge holds the stored sections, or nothing when it is new. -/
theorem mergeTarget_sound (h : Sound p (owned storage+rest)) :
    Sound (mergeTarget p storage).1 ((mergeTarget p storage).2::ₘrest) ∧
      Agrees p (mergeTarget p storage).1 rest ∧
      ((mergeTarget p storage).1.read (mergeTarget p storage).2).sections=
        storedSections p storage := by
  cases storage with
  | none =>
    rw [owned,zero_add] at h
    exact h.acquire
  | some ref =>
    rw [owned,Multiset.singleton_add] at h
    exact ⟨h,fun _ _ => rfl,rfl⟩

/-- A merge extends the stored sections. -/
theorem merge_stores (h : Sound p (owned storage+rest)) (next : List PayloadSection) :
    Stores p (mergePayloadSectionsIntoStorage p storage next).1 rest
      (mergePayloadSectionsIntoStorage p storage next).2
      (mergeSections (storedSections p storage) next) := by
  unfold mergePayloadSectionsIntoStorage
  split_ifs with hempty
  · rw [hempty,mergeSections_nil]
    exact ⟨h,fun _ _ => rfl,rfl⟩
  · obtain ⟨hsound,hagrees,hstored⟩ := mergeTarget_sound h
    dsimp only
    obtain ⟨hwritten,hrest,hread⟩ := hsound.write
      (((mergeTarget p storage).1.read (mergeTarget p storage).2).mergeFrom next)
    refine ⟨?_,hagrees.trans hrest,?_⟩
    · rw [owned,Multiset.singleton_add]
      exact hwritten
    · rw [storedSections,hread,TracePayloadStorage.sections_mergeFrom,hstored]

end StraceGo.EventPayloadStorage

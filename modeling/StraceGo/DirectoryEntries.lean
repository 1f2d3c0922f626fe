import StraceGo.ByteLayout
import Mathlib.Algebra.BigOperators.Group.List.Basic

/-!
# Directory entries

A captured directory buffer is walked record by record, each of which tells its
own length. The walk decodes the whole records from the start of the buffer and
says whether they fill what the syscall returned. Reads are bounds-checked, and
a step of the walk is at least as long as a record's header, so it ends. A
buffer that the kernel has written is decoded to the entries it was written
from, and a cut buffer to those that it still holds.
-/

namespace StraceGo.DirectoryEntries

open ByteLayout

section Decoding

/-- Offset of a record's length. -/
def direntReclenOffset : ℕ := 16

/-- Offset of a name in the legacy layout. -/
def direntNameOffset : ℕ := 18

/-- Offset of a name in the wide layout. -/
def dirent64NameOffset : ℕ := 19

/-- Layouts of a record. -/
inductive DirentLayout where
  | legacy
  | layout64
  deriving DecidableEq

/-- A decoded entry. -/
@[ext] structure DirentEntry where
  /-- Number of the file. -/
  inode : UInt64
  /-- Position in the directory. -/
  offset : UInt64
  /-- Length of the record. -/
  recordLength : UInt16
  /-- Type of the file. -/
  type : UInt8
  /-- Name. -/
  name : List UInt8
  deriving DecidableEq

/-- Whole records of a captured buffer. -/
structure DirentSnapshot where
  /-- Entries. -/
  entries : List DirentEntry
  /-- Their layout. -/
  layout : DirentLayout
  /-- Whether they fill what the syscall returned. -/
  complete : Bool
  deriving DecidableEq

/-- Name before its terminator. -/
def trimDirentName (data : List UInt8) : List UInt8 := data.takeWhile (· != 0)

/-- Type and name of a record; the legacy layout has the type in its last byte. -/
def decodeDirentTail (record : List UInt8) : DirentLayout → Checked (UInt8×List UInt8)
  | .layout64 => do
    return (← record[18]?,trimDirentName (← slice record dirent64NameOffset record.length))
  | .legacy => do
    return (← record[record.length-1]?,
      trimDirentName (← slice record direntNameOffset (record.length-1)))

/-- Decode the record at the start of a buffer, if the buffer holds it whole. -/
def decodeDirentRecord (data : List UInt8) (layout : DirentLayout) :
    Checked (Option (DirentEntry×{n : ℕ // 0 < n})) := do
  if data.length < dirent64NameOffset then return none
  let recordLength := (← uint16At data direntReclenOffset).toNat
  if h : recordLength < dirent64NameOffset ∨ data.length < recordLength then return none
  else
    let record ← slice data 0 recordLength
    let (type,name) ← decodeDirentTail record layout
    return some (
      { inode := ← uint64At record 0
        offset := ← uint64At record 8
        recordLength := UInt16.ofNat recordLength
        type := type
        name := name },
      ⟨recordLength,by
        rw [not_or,Nat.not_lt] at h
        exact Nat.lt_of_lt_of_le (by decide) h.1⟩)

variable {S : Type}

/-- Walk from an offset to the limit; the walk is complete once it has passed all bytes. -/
def walkFrom (data : List UInt8) (byteCount limit : ℕ) (layout : DirentLayout)
    (visit : S → DirentEntry → S) (offset count : ℕ) (s : S) : Checked (S×ℕ×Bool) :=
  if offset < limit then
    match slice data offset limit with
    | none => none
    | some rest =>
      match decodeDirentRecord rest layout with
      | none => none
      | some none => some (s,count,false)
      | some (some (entry,recordLength)) =>
        if offset+recordLength.1=byteCount then some (visit s entry,count+1,true)
        else walkFrom data byteCount limit layout visit (offset+recordLength.1) (count+1)
          (visit s entry)
  else some (s,count,false)
termination_by limit-offset
decreasing_by
  have := recordLength.2
  omega

/-- Walk over the whole records of a buffer. -/
def walkDirents (data : List UInt8) (byteCount : ℤ) (layout : DirentLayout)
    (visit : S → DirentEntry → S) (s : S) : Checked (S×ℕ×Bool) :=
  if byteCount ≤ 0 then some (s,0,true)
  else walkFrom data byteCount.toNat (min byteCount.toNat data.length) layout visit 0 0 s

/-- Decode the whole records of a buffer. -/
def decodeDirents (data : List UInt8) (byteCount : ℤ) (layout : DirentLayout) :
    Checked DirentSnapshot := do
  let (entries,_,complete) ← walkDirents data byteCount layout (fun entries entry =>
    entries ++ [entry]) []
  return ⟨entries,layout,complete⟩

/-- Count the whole records of a buffer. -/
def countDirents (data : List UInt8) (byteCount : ℤ) (layout : DirentLayout) :
    Checked (ℕ×Bool) := do
  let (_,count,complete) ← walkDirents data byteCount layout (fun (_ : Unit) _ => ()) ()
  return (count,complete)

/-- Number of entries. -/
def DirentSnapshot.count (snapshot : DirentSnapshot) : ℕ := snapshot.entries.length

end Decoding

section Records

/-- Entry in the bytes of a record. -/
def entryOf (layout : DirentLayout) (record : List UInt8) : DirentEntry where
  inode := UInt64.ofNat (field record 0 8)
  offset := UInt64.ofNat (field record 8 8)
  recordLength := UInt16.ofNat record.length
  type := match layout with
    | .layout64 => record.getD 18 0
    | .legacy => record.getD (record.length-1) 0
  name := match layout with
    | .layout64 => trimDirentName (record.drop dirent64NameOffset)
    | .legacy => trimDirentName
      ((record.drop direntNameOffset).take (record.length-1-direntNameOffset))

/-- Whether a buffer starts with a whole record of a length. -/
def StartsWithRecord (data : List UInt8) (n : ℕ) : Prop :=
  field data direntReclenOffset 2=n ∧ dirent64NameOffset ≤ n ∧ n ≤ data.length

/-- The reads inside a record that is long enough are in bounds. -/
theorem decodeDirentTail_eq {record : List UInt8} (h : dirent64NameOffset ≤ record.length)
    (layout : DirentLayout) :
    decodeDirentTail record layout=
      some ((entryOf layout record).type,(entryOf layout record).name) := by
  have hlong : 19 ≤ record.length := h
  cases layout with
  | layout64 =>
    have htype : record[18]?=some (record.getD 18 0) := by
      rw [List.getD_eq_getElem?_getD,List.getElem?_eq_getElem (by omega)]
      rfl
    unfold decodeDirentTail entryOf
    rw [htype,slice_end h]
    rfl
  | legacy =>
    have htype : record[record.length-1]?=some (record.getD (record.length-1) 0) := by
      rw [List.getD_eq_getElem?_getD,List.getElem?_eq_getElem (by omega)]
      rfl
    have hname : direntNameOffset ≤ record.length-1 := by
      unfold direntNameOffset
      omega
    unfold decodeDirentTail entryOf
    rw [htype,slice_eq hname (by omega)]
    rfl

/-- A buffer without a whole record at its start. -/
theorem decodeDirentRecord_eq_none {data : List UInt8} (h : ¬∃ n, StartsWithRecord data n)
    (layout : DirentLayout) : decodeDirentRecord data layout=some none := by
  unfold decodeDirentRecord
  by_cases hshort : data.length < dirent64NameOffset
  · rw [if_pos hshort]
    rfl
  · rw [if_neg hshort]
    unfold dirent64NameOffset at hshort
    have hoffset : direntReclenOffset+2 ≤ data.length := by
      unfold direntReclenOffset
      omega
    have hpartial : (UInt16.ofNat (field data direntReclenOffset 2)).toNat < dirent64NameOffset ∨
        data.length < (UInt16.ofNat (field data direntReclenOffset 2)).toNat := by
      rw [toNat_field16]
      by_contra hwhole
      rw [not_or,Nat.not_lt,Nat.not_lt] at hwhole
      exact h ⟨_,rfl,hwhole.1,hwhole.2⟩
    rw [uint16At_eq hoffset]
    dsimp only [pure,bind,Option.bind_some]
    rw [dif_pos hpartial]

/-- A buffer with a whole record at its start. -/
theorem decodeDirentRecord_eq_some {data : List UInt8} {n : ℕ} (h : StartsWithRecord data n)
    (layout : DirentLayout) :
    ∃ hn, decodeDirentRecord data layout=some (some (entryOf layout (data.take n),⟨n,hn⟩)) := by
  obtain ⟨hreclen,hheader,hwhole⟩ := h
  have hn : 0 < n := Nat.lt_of_lt_of_le (by decide) hheader
  refine ⟨hn,?_⟩
  have hlength : (data.take n).length=n := by
    rw [List.length_take]
    omega
  have hnat : (UInt16.ofNat (field data direntReclenOffset 2)).toNat=n := by
    rw [toNat_field16,hreclen]
  have hslice : slice data 0 n=some (data.take n) := slice_eq (Nat.zero_le n) hwhole
  have htail := decodeDirentTail_eq (hlength.symm ▸ hheader) layout
  unfold dirent64NameOffset at hheader
  have hoffset : direntReclenOffset+2 ≤ data.length := by
    unfold direntReclenOffset
    omega
  unfold decodeDirentRecord
  rw [if_neg (by unfold dirent64NameOffset; omega),uint16At_eq hoffset]
  dsimp only [pure,bind,Option.bind_some]
  rw [dif_neg (by rw [hnat,not_or]; unfold dirent64NameOffset; omega)]
  simp only [hnat,hslice,htail,uint64At_eq (by omega : 0+8 ≤ (data.take n).length),
    uint64At_eq (by omega : 8+8 ≤ (data.take n).length),Option.bind_some]
  unfold entryOf
  rw [hlength]

/-- Whole records from the start of a buffer. -/
def records (layout : DirentLayout) (data : List UInt8) : List DirentEntry :=
  if dirent64NameOffset ≤ field data direntReclenOffset 2 ∧
      field data direntReclenOffset 2 ≤ data.length then
    entryOf layout (data.take (field data direntReclenOffset 2))::
      records layout (data.drop (field data direntReclenOffset 2))
  else []
termination_by data.length
decreasing_by
  unfold dirent64NameOffset at *
  rw [List.length_drop]
  omega

theorem records_of_starts {data : List UInt8} {n : ℕ} (h : StartsWithRecord data n)
    (layout : DirentLayout) :
    records layout data=entryOf layout (data.take n)::records layout (data.drop n) := by
  rw [records,h.1,if_pos h.2]

theorem records_of_not {data : List UInt8} (h : ¬∃ n, StartsWithRecord data n)
    (layout : DirentLayout) : records layout data=[] := by
  rw [records,if_neg fun hwhole => h ⟨_,rfl,hwhole⟩]

theorem records_nil (layout : DirentLayout) : records layout []=[] := by
  apply records_of_not
  rintro ⟨n,_,hheader,hwhole⟩
  unfold dirent64NameOffset at hheader
  rw [List.length_nil] at hwhole
  omega

/-- Bytes that records take. -/
def lengths (entries : List DirentEntry) : ℕ :=
  (entries.map fun entry => entry.recordLength.toNat).sum

theorem lengths_cons (entry : DirentEntry) (entries : List DirentEntry) :
    lengths (entry::entries)=entry.recordLength.toNat+lengths entries := by
  unfold lengths
  rw [List.map_cons,List.sum_cons]

/-- A decoded entry tells the length of its record. -/
theorem recordLength_entryOf {data : List UInt8} {n : ℕ} (h : StartsWithRecord data n)
    (layout : DirentLayout) : (entryOf layout (data.take n)).recordLength.toNat=n := by
  have hlt : n < 256^2 := h.1 ▸ field_lt data direntReclenOffset 2
  have hlength : (data.take n).length=n := by
    rw [List.length_take]
    have hwhole := h.2.2
    omega
  change (UInt16.ofNat (data.take n).length).toNat=n
  rw [hlength]
  exact UInt16.toNat_ofNat_of_lt hlt

/-- The walk visits the whole records, and is complete if they end where the syscall's bytes do. -/
theorem walkFrom_eq {S : Type} {data : List UInt8} {byteCount limit : ℕ}
    (hlimit : limit ≤ data.length) (hcount : limit ≤ byteCount) (layout : DirentLayout)
    (visit : S → DirentEntry → S) {offset : ℕ} (hoffset : offset < byteCount) (count : ℕ) (s : S) :
    walkFrom data byteCount limit layout visit offset count s=
      some ((records layout ((data.drop offset).take (limit-offset))).foldl visit s,
        count+(records layout ((data.drop offset).take (limit-offset))).length,
        decide (offset+lengths (records layout ((data.drop offset).take (limit-offset)))=
          byteCount)) := by
  induction hleft : limit-offset using Nat.strongRecOn generalizing offset count s with
  | ind left ih =>
    rw [walkFrom]
    by_cases hinside : offset < limit
    · rw [if_pos hinside,slice_eq (Nat.le_of_lt hinside) hlimit,hleft]
      dsimp only
      by_cases hstarts : ∃ n, StartsWithRecord ((data.drop offset).take left) n
      · obtain ⟨n,hn⟩ := hstarts
        obtain ⟨hpositive,hdecoded⟩ := decodeDirentRecord_eq_some hn layout
        have hlength := recordLength_entryOf hn layout
        have hfits : n ≤ left := by
          have hwhole := hn.2.2
          rw [List.length_take] at hwhole
          omega
        have hrest : ((data.drop offset).take left).drop n=
            (data.drop (offset+n)).take (left-n) := by
          rw [List.drop_take,List.drop_drop]
        rw [hdecoded,records_of_starts hn,hrest]
        dsimp only
        rw [List.foldl_cons,List.length_cons,lengths_cons,hlength]
        by_cases hend : offset+n=byteCount
        · have hnone : (data.drop (offset+n)).take (left-n)=[] := by
            rw [List.take_eq_nil_iff]
            left
            omega
          rw [if_pos hend,hnone,records_nil]
          simp [lengths,hend]
        · rw [if_neg hend,ih (left-n) (by omega) (by omega) (count+1) _ (by omega)]
          congr 3
          · omega
          · rw [Nat.add_assoc]
      · rw [decodeDirentRecord_eq_none hstarts,records_of_not hstarts]
        simp [lengths]
        omega
    · have hnone : (data.drop offset).take left=[] := by
        rw [List.take_eq_nil_iff]
        left
        omega
      rw [if_neg hinside,hnone,records_nil]
      simp [lengths]
      omega

end Records

section KernelLayout

/-- An entry as the kernel writes it: its name has no terminator, and its length fits its field. -/
structure KernelDirent where
  /-- Number of the file. -/
  inode : UInt64
  /-- Position in the directory. -/
  offset : UInt64
  /-- Type of the file. -/
  type : UInt8
  /-- Name. -/
  name : List UInt8
  /-- Bytes after the name's terminator. -/
  padding : List UInt8
  /-- The name ends at its terminator. -/
  terminated : 0∉name
  /-- The length has sixteen bits. -/
  fits : name.length+padding.length+20 ≤ 65535

namespace KernelDirent

variable (d : KernelDirent) (layout : DirentLayout)

/-- Length of the record. -/
def recordLength : ℕ := d.name.length+d.padding.length+20

/-- Bytes behind the length. -/
def tail : DirentLayout → List UInt8
  | .layout64 => d.type::d.name ++ 0::d.padding
  | .legacy => d.name ++ 0::d.padding ++ [d.type]

/-- Parts of the record. -/
def pieces : List (List UInt8) :=
  [bytes 8 d.inode.toNat,bytes 8 d.offset.toNat,bytes 2 d.recordLength,d.tail layout]

/-- Bytes of the record. -/
def encode : List UInt8 := (d.pieces layout).flatten

/-- The entry that the record stands for. -/
def entry : DirentEntry where
  inode := d.inode
  offset := d.offset
  recordLength := UInt16.ofNat d.recordLength
  type := d.type
  name := d.name

theorem length_tail : (d.tail layout).length=d.name.length+d.padding.length+2 := by
  cases layout with
  | layout64 =>
    simp only [tail,List.length_append,List.length_cons]
    omega
  | legacy =>
    simp only [tail,List.length_append,List.length_cons,List.length_nil]
    omega

theorem length_encode : (d.encode layout).length=d.recordLength := by
  unfold encode pieces recordLength
  simp only [List.flatten_cons,List.flatten_nil,List.append_nil,List.length_append,length_bytes,
    length_tail]
  omega

/-- A name ends at its terminator. -/
theorem trimDirentName_name (rest : List UInt8) : trimDirentName (d.name ++ 0::rest)=d.name := by
  have hname : ∀ b∈d.name, (b != 0)=true := by
    intro b hb
    rw [bne_iff_ne]
    rintro rfl
    exact d.terminated hb
  unfold trimDirentName
  rw [List.takeWhile_append_of_pos hname]
  simp

/-- Header of the record. -/
def header : List UInt8 :=
  bytes 8 d.inode.toNat ++ (bytes 8 d.offset.toNat ++ bytes 2 d.recordLength)

theorem length_header : d.header.length=direntNameOffset := by
  unfold header direntNameOffset
  simp only [List.length_append,length_bytes]

theorem encode_eq : d.encode layout=d.header ++ d.tail layout := by
  unfold encode pieces header
  simp only [List.flatten_cons,List.flatten_nil,List.append_nil,List.append_assoc]

theorem type_entryOf_encode : (entryOf layout (d.encode layout)).type=d.type := by
  have hheader : d.header.length=18 := d.length_header
  cases layout with
  | layout64 =>
    change (d.encode .layout64).getD 18 0=d.type
    rw [encode_eq,List.getD_append_right _ _ _ _ (by omega),hheader]
    rfl
  | legacy =>
    change (d.encode .legacy).getD ((d.encode .legacy).length-1) 0=d.type
    have htail : (d.tail .legacy).length=d.name.length+d.padding.length+2 := d.length_tail .legacy
    rw [length_encode,encode_eq,List.getD_append_right _ _ _ _ (by unfold recordLength; omega),
      hheader]
    have hlast : d.recordLength-1-18=(d.name ++ 0::d.padding).length := by
      unfold recordLength
      rw [List.length_append,List.length_cons]
      omega
    unfold tail
    rw [hlast,List.getD_append_right _ _ _ _ (Nat.le_refl _),Nat.sub_self]
    rfl

theorem name_entryOf_encode : (entryOf layout (d.encode layout)).name=d.name := by
  have hdrop : (d.encode layout).drop direntNameOffset=d.tail layout := by
    rw [encode_eq,←d.length_header,List.drop_left]
  cases layout with
  | layout64 =>
    change trimDirentName ((d.encode .layout64).drop (direntNameOffset+1))=d.name
    rw [←List.drop_drop,hdrop]
    exact d.trimDirentName_name _
  | legacy =>
    change trimDirentName (((d.encode .legacy).drop direntNameOffset).take
      ((d.encode .legacy).length-1-direntNameOffset))=d.name
    have hlast : (d.encode .legacy).length-1-direntNameOffset=(d.name ++ 0::d.padding).length := by
      rw [length_encode,List.length_append,List.length_cons]
      unfold recordLength direntNameOffset
      omega
    rw [hdrop,hlast,tail,List.take_left]
    exact d.trimDirentName_name _

/-- A record that the kernel has written is decoded to its entry. -/
theorem entryOf_encode : entryOf layout (d.encode layout)=d.entry := by
  have hinode : field (d.encode layout) 0 8=d.inode.toNat := by
    have hread := field_piece (d.pieces layout) 0 rfl rfl d.inode.toNat_lt []
    rw [List.append_nil] at hread
    exact hread
  have hoffset : field (d.encode layout) 8 8=d.offset.toNat := by
    have hread := field_piece (d.pieces layout) 1 rfl rfl d.offset.toNat_lt []
    rw [List.append_nil] at hread
    exact hread
  apply DirentEntry.ext
  · change UInt64.ofNat (field (d.encode layout) 0 8)=d.inode
    rw [hinode,UInt64.ofNat_toNat]
  · change UInt64.ofNat (field (d.encode layout) 8 8)=d.offset
    rw [hoffset,UInt64.ofNat_toNat]
  · change UInt16.ofNat (d.encode layout).length=UInt16.ofNat d.recordLength
    rw [length_encode]
  · exact d.type_entryOf_encode layout
  · exact d.name_entryOf_encode layout

/-- A buffer behind a record's header tells the record's length. -/
theorem reclen_encode (rest : List UInt8) :
    field (d.encode layout ++ rest) direntReclenOffset 2=d.recordLength := by
  have hfits : d.recordLength < 256^2 := by
    have hfits := d.fits
    unfold recordLength
    omega
  exact field_piece (d.pieces layout) 2 rfl rfl hfits rest

theorem startsWithRecord_encode (rest : List UInt8) :
    StartsWithRecord (d.encode layout ++ rest) d.recordLength := by
  refine ⟨d.reclen_encode layout rest,?_,?_⟩
  · unfold recordLength dirent64NameOffset
    omega
  · rw [List.length_append,length_encode]
    omega

theorem records_encode (rest : List UInt8) :
    records layout (d.encode layout ++ rest)=d.entry::records layout rest := by
  have hlength := d.length_encode layout
  rw [records_of_starts (d.startsWithRecord_encode layout rest),←hlength,List.take_left,
    List.drop_left,entryOf_encode]

/-- A cut record is not decoded. -/
theorem records_cut {m : ℕ} (hm : m < d.recordLength) (rest : List UInt8) :
    records layout ((d.encode layout ++ rest).take m)=[] := by
  apply records_of_not
  rintro ⟨n,hreclen,hheader,hwhole⟩
  have hlength : ((d.encode layout ++ rest).take m).length=m := by
    rw [List.length_take,List.length_append,length_encode]
    omega
  unfold dirent64NameOffset at hheader
  have hsame : field ((d.encode layout ++ rest).take m) direntReclenOffset 2=d.recordLength := by
    have hpart : field (((d.encode layout ++ rest).drop 0).take m) direntReclenOffset 2=
        field (d.encode layout ++ rest) (0+direntReclenOffset) 2 := by
      apply field_part
      unfold direntReclenOffset
      omega
    rw [List.drop_zero,Nat.zero_add] at hpart
    rw [hpart,reclen_encode]
  rw [hsame] at hreclen
  omega

end KernelDirent

/-- Entries as the kernel writes them one after the other. -/
def encodeAll (layout : DirentLayout) (ds : List KernelDirent) : List UInt8 :=
  ds.flatMap fun d => d.encode layout

/-- Entries that the first bytes of a buffer hold whole. -/
def wholeEntries : ℕ → List KernelDirent → List KernelDirent
  | _,[] => []
  | m,d::ds => if d.recordLength ≤ m then d::wholeEntries (m-d.recordLength) ds else []

theorem records_encodeAll_take (layout : DirentLayout) (ds : List KernelDirent) (m : ℕ) :
    records layout ((encodeAll layout ds).take m)=
      (wholeEntries m ds).map KernelDirent.entry := by
  induction ds generalizing m with
  | nil =>
    unfold encodeAll wholeEntries
    rw [List.flatMap_nil,List.take_nil,records_nil,List.map_nil]
  | cons d ds ih =>
    have hsplit : encodeAll layout (d::ds)=d.encode layout ++ encodeAll layout ds := rfl
    rw [hsplit,wholeEntries]
    by_cases hfits : d.recordLength ≤ m
    · have htake : (d.encode layout ++ encodeAll layout ds).take m=
          d.encode layout ++ (encodeAll layout ds).take (m-d.recordLength) := by
        rw [List.take_append,d.length_encode layout,List.take_of_length_le]
        rw [d.length_encode layout]
        exact hfits
      rw [if_pos hfits,htake,d.records_encode layout,List.map_cons,ih]
    · rw [if_neg hfits,d.records_cut layout (Nat.lt_of_not_le hfits),List.map_nil]

theorem wholeEntries_all {layout : DirentLayout} {ds : List KernelDirent} {m : ℕ}
    (h : (encodeAll layout ds).length ≤ m) : wholeEntries m ds=ds := by
  induction ds generalizing m with
  | nil => rfl
  | cons d ds ih =>
    have hsplit : encodeAll layout (d::ds)=d.encode layout ++ encodeAll layout ds := rfl
    rw [hsplit,List.length_append,d.length_encode layout] at h
    rw [wholeEntries,if_pos (by omega),ih (by omega)]

/-- The entries of whole records take their records' bytes, which are all bytes only together. -/
theorem lengths_wholeEntries (layout : DirentLayout) (ds : List KernelDirent) (m : ℕ) :
    lengths ((wholeEntries m ds).map KernelDirent.entry) ≤ m ∧
      lengths (ds.map KernelDirent.entry)=(encodeAll layout ds).length := by
  induction ds generalizing m with
  | nil => exact ⟨Nat.zero_le m,rfl⟩
  | cons d ds ih =>
    have hsplit : encodeAll layout (d::ds)=d.encode layout ++ encodeAll layout ds := rfl
    have hentry : d.entry.recordLength.toNat=d.recordLength := by
      have hfits := d.fits
      apply UInt16.toNat_ofNat_of_lt
      unfold KernelDirent.recordLength
      change _ < 65536
      omega
    have hrest := ih (m-d.recordLength)
    rw [hsplit,List.length_append,d.length_encode layout,List.map_cons,lengths_cons,hentry,hrest.2]
    refine ⟨?_,rfl⟩
    rw [wholeEntries]
    by_cases hfits : d.recordLength ≤ m
    · rw [if_pos hfits,List.map_cons,lengths_cons,hentry]
      omega
    · rw [if_neg hfits]
      exact Nat.zero_le m

end KernelLayout

section Snapshots

/-- Entries that are records one behind the other from an offset on, as long as they tell. -/
def Consecutive (layout : DirentLayout) (data : List UInt8) : ℕ → List DirentEntry → Prop
  | _,[] => True
  | offset,entry::entries =>
    field data (offset+direntReclenOffset) 2=entry.recordLength.toNat ∧
      dirent64NameOffset ≤ entry.recordLength.toNat ∧
      offset+entry.recordLength.toNat ≤ data.length ∧
      entry=entryOf layout ((data.drop offset).take entry.recordLength.toNat) ∧
      Consecutive layout data (offset+entry.recordLength.toNat) entries

theorem consecutive_records (layout : DirentLayout) (data : List UInt8) (offset : ℕ) :
    Consecutive layout data offset (records layout (data.drop offset)) := by
  induction hleft : data.length-offset using Nat.strongRecOn generalizing offset with
  | ind left ih =>
    by_cases hstarts : ∃ n, StartsWithRecord (data.drop offset) n
    · obtain ⟨n,hn⟩ := hstarts
      have hlength := recordLength_entryOf hn layout
      have hreclen := hn.1
      have hheader := hn.2.1
      have hwhole := hn.2.2
      rw [List.length_drop] at hwhole
      rw [field,List.drop_drop] at hreclen
      unfold dirent64NameOffset at hheader
      rw [records_of_starts hn,Consecutive,hlength,List.drop_drop]
      exact ⟨hreclen,hheader,by omega,rfl,ih (data.length-(offset+n)) (by omega) (offset+n) rfl⟩
    · rw [records_of_not hstarts]
      trivial

/-- The snapshot of a buffer has the whole records of the bytes that the syscall returned. -/
theorem decodeDirents_eq {byteCount : ℤ} (hcount : 0 < byteCount) (data : List UInt8)
    (layout : DirentLayout) :
    decodeDirents data byteCount layout=
      some ⟨records layout (data.take byteCount.toNat),layout,
        decide (lengths (records layout (data.take byteCount.toNat))=byteCount.toNat)⟩ ∧
    countDirents data byteCount layout=
      some ((records layout (data.take byteCount.toNat)).length,
        decide (lengths (records layout (data.take byteCount.toNat))=byteCount.toNat)) := by
  have htake : data.take (min byteCount.toNat data.length)=data.take byteCount.toNat := by
    rw [List.take_eq_take_iff]
    omega
  have hwalk : ∀ {S : Type} (visit : S → DirentEntry → S) (s : S),
      walkDirents data byteCount layout visit s=
        some ((records layout (data.take byteCount.toNat)).foldl visit s,
          (records layout (data.take byteCount.toNat)).length,
          decide (lengths (records layout (data.take byteCount.toNat))=byteCount.toNat)) := by
    intro S visit s
    unfold walkDirents
    rw [if_neg (by omega),walkFrom_eq (Nat.min_le_right _ _) (Nat.min_le_left _ _) layout visit
      (by omega),List.drop_zero,Nat.sub_zero,htake,Nat.zero_add,Nat.zero_add]
  have hentries : ∀ (entries before : List DirentEntry),
      entries.foldl (fun entries entry => entries ++ [entry]) before=before ++ entries := by
    intro entries
    induction entries with
    | nil => exact fun before => (List.append_nil before).symm
    | cons entry entries ih =>
      intro before
      rw [List.foldl_cons,ih,List.append_assoc,List.singleton_append]
  unfold decodeDirents countDirents
  rw [hwalk,hwalk]
  dsimp only [pure,bind,Option.bind_some]
  rw [hentries,List.nil_append]
  exact ⟨rfl,rfl⟩

/-- The walk over a directory buffer ends without a read past what the syscall returned; its records
lie one behind the other, and it is complete exactly if they fill what was returned. A buffer that
the kernel has written is decoded to its entries, a cut of it to the entries it holds whole. -/
theorem directory_walk_is_faithful :
    (∀ (data : List UInt8) (byteCount : ℤ) (layout : DirentLayout), ∃ snapshot,
      decodeDirents data byteCount layout=some snapshot ∧
      countDirents data byteCount layout=some (snapshot.count,snapshot.complete) ∧
      Consecutive layout (data.take byteCount.toNat) 0 snapshot.entries ∧
      (snapshot.complete=true ↔ byteCount ≤ 0 ∨ (lengths snapshot.entries : ℤ)=byteCount) ∧
      ∀ tail, byteCount ≤ data.length →
        decodeDirents (data.take byteCount.toNat ++ tail) byteCount layout=some snapshot) ∧
    ∀ (layout : DirentLayout) (ds : List KernelDirent),
      decodeDirents (encodeAll layout ds) (encodeAll layout ds).length layout=
        some ⟨ds.map KernelDirent.entry,layout,true⟩ ∧
      ∀ m < (encodeAll layout ds).length,
        decodeDirents ((encodeAll layout ds).take m) (encodeAll layout ds).length layout=
          some ⟨(wholeEntries m ds).map KernelDirent.entry,layout,false⟩ := by
  refine ⟨fun data byteCount layout => ?_,fun layout ds => ?_⟩
  · by_cases hcount : 0 < byteCount
    · obtain ⟨hdecoded,hcounted⟩ := decodeDirents_eq hcount data layout
      refine ⟨_,hdecoded,hcounted,?_,?_,fun tail htail => ?_⟩
      · have hconsecutive := consecutive_records layout (data.take byteCount.toNat) 0
        rw [List.drop_zero] at hconsecutive
        exact hconsecutive
      · rw [decide_eq_true_iff]
        dsimp only
        omega
      · have hlength : (data.take byteCount.toNat).length=byteCount.toNat := by
          rw [List.length_take]
          omega
        have hsame : (data.take byteCount.toNat ++ tail).take byteCount.toNat=
            data.take byteCount.toNat := by
          rw [List.take_append_of_le_length (by omega),List.take_take,Nat.min_self]
        rw [(decodeDirents_eq hcount _ layout).1,hsame]
    · refine ⟨⟨[],layout,true⟩,?_,?_,trivial,?_,fun tail _ => ?_⟩
      · unfold decodeDirents walkDirents
        rw [if_pos (by omega)]
        rfl
      · unfold countDirents walkDirents
        rw [if_pos (by omega)]
        rfl
      · exact iff_of_true rfl (Or.inl (by omega))
      · unfold decodeDirents walkDirents
        rw [if_pos (by omega)]
        rfl
  · have hlengths := lengths_wholeEntries layout ds
    by_cases hempty : ds=[]
    · rw [hempty]
      refine ⟨?_,fun m hm => absurd hm (Nat.not_lt_zero m)⟩
      unfold decodeDirents walkDirents
      rfl
    · have hpositive : (0 : ℤ) < (encodeAll layout ds).length := by
        obtain ⟨d,rest,rfl⟩ := List.exists_cons_of_ne_nil hempty
        have hsplit : encodeAll layout (d::rest)=d.encode layout ++ encodeAll layout rest := rfl
        rw [hsplit,List.length_append,d.length_encode layout]
        unfold KernelDirent.recordLength
        omega
      refine ⟨?_,fun m hm => ?_⟩
      · have hrecords := records_encodeAll_take layout ds (encodeAll layout ds).length
        rw [wholeEntries_all (Nat.le_refl _)] at hrecords
        rw [(decodeDirents_eq hpositive _ layout).1,Int.toNat_natCast,hrecords,(hlengths 0).2,
          decide_eq_true rfl]
      · have htake : ((encodeAll layout ds).take m).take (encodeAll layout ds).length=
            (encodeAll layout ds).take m := by
          rw [List.take_take,Nat.min_eq_right (by omega)]
        have hshort := (hlengths m).1
        rw [(decodeDirents_eq hpositive _ layout).1,Int.toNat_natCast,htake,
          records_encodeAll_take,decide_eq_false (by omega)]

end Snapshots

end StraceGo.DirectoryEntries

import StraceGo.GoText
import StraceGo.MachineIntegers

/-!
# Decoding of flag words

The greedy cover of a word by the entries of a flag table, with the fields that
some decoders carve out before or behind it. What is printed is kept as a list of
names with their bits and a remainder; the union of these is read back, and it is
the decoded word.
-/

namespace StraceGo.XlatFlags

open GoText MachineIntegers

/-- A named value of a table. -/
structure XlatVal where
  /-- The value. -/
  val : UInt64
  /-- Its name. -/
  str : String
  deriving DecidableEq

/-- A table of names. -/
structure XlatTable where
  /-- Prefix of its names. -/
  namePrefix : String
  /-- Its values in order. -/
  entries : List XlatVal

/-- A table whose values are non-zero numbers of 32 bits. -/
structure NarrowTable where
  /-- The table. -/
  table : XlatTable
  /-- The bound of its values. -/
  narrow : ∀ e∈table.entries, e.val≠0 ∧ e.val &&& 0xFFFFFFFF=e.val

/-- What a printed name stands for. -/
inductive NameKind where
  /-- The access mode of an open call. -/
  | accessMode
  /-- A field of several bits. -/
  | field
  /-- The value zero. -/
  | zero
  /-- A flag of the table. -/
  | flag
  deriving DecidableEq

/-- A printed name. -/
structure FlagName where
  /-- Its text. -/
  text : String
  /-- Bits that it stands for. -/
  bits : UInt64
  /-- What it stands for. -/
  kind : NameKind
  deriving DecidableEq

/-- What is printed of a word. -/
structure DecodedFlags where
  /-- The names in order. -/
  names : List FlagName
  /-- Bits that no name stands for, if there are any. -/
  remainder : Option UInt64
  deriving DecidableEq

/-- Way in which values are printed. -/
inductive XlatFormat where
  | named
  | raw
  | verbose
  deriving DecidableEq

/-- Tables of a session and the way to print them. -/
structure Catalog where
  /-- The way to print values. -/
  format : XlatFormat
  /-- The tables by name. -/
  tables : String → Option XlatTable

/-- Catalog with a table under a name. -/
def Catalog.withTable (catalog : Catalog) (name : String) (table : XlatTable) : Catalog :=
  { catalog with tables := fun other => if other=name then some table else catalog.tables other }

section Cover

/-- Names that were found and the bits that they handle. -/
structure Cover where
  /-- The names in order. -/
  names : List FlagName
  /-- Bits that need no further name. -/
  handled : UInt64

/-- Name of an entry. -/
def flagOf (e : XlatVal) : FlagName := ⟨e.str,e.val,.flag⟩

/-- Take an entry into a cover if it is accepted. -/
def coverStep (accepts : UInt64 → XlatVal → Bool) (bits : XlatVal → UInt64) (s : Cover)
    (e : XlatVal) : Cover :=
  if accepts s.handled e then ⟨s.names ++ [flagOf e],s.handled ||| bits e⟩ else s

/-- Union of the bits of some names. -/
def orAll (names : List FlagName) : UInt64 := names.foldr (fun n bits => n.bits ||| bits) 0

/-- Bits that are read back from what was printed. -/
def DecodedFlags.readBack (d : DecodedFlags) : UInt64 := orAll d.names ||| d.remainder.getD 0

/-- Remainder, unless it is empty. -/
def remainderOf (bits : UInt64) : Option UInt64 := if bits=0 then none else some bits

end Cover

section BitFlags

/-- Whether a table has the flags of an open call. -/
def isOpenMode (xlatName : String) : Bool :=
  contains xlatName "open_mode_flags" || xlatName=="open_access_modes"

/-- Name of an access mode. -/
def accessModeName (accMode : UInt64) : String :=
  if accMode=0 then "O_RDONLY" else if accMode=1 then "O_WRONLY"
  else if accMode=2 then "O_RDWR" else "O_ACCMODE"

/-- Cover before the first entry: the access mode of an open call. -/
def baseCover (val : UInt64) (xlatName : String) : Cover :=
  if isOpenMode xlatName then
    ⟨[⟨accessModeName (val &&& 3),val &&& 3,.accessMode⟩],val &&& 3⟩
  else ⟨[],0⟩

/-- Whether an entry is taken: its bits are all set, and not all handled. -/
def acceptsFlag (val handled : UInt64) (e : XlatVal) : Bool :=
  e.val != 0 && (val &&& e.val)==e.val && (handled &&& e.val) != e.val

/-- Cover of a word by a table. -/
def coverOf (val : UInt64) (xlatName : String) (table : XlatTable) : Cover :=
  table.entries.foldl (coverStep (acceptsFlag val) XlatVal.val) (baseCover val xlatName)

/-- Positions of the loop that orders the wait options. -/
def waitPairs (n : ℕ) : List (ℕ×ℕ) :=
  (List.range n).flatMap fun i => (List.range (n-(i+1))).map fun k => (i,i+1+k)

/-- Exchange two names if they are the wait options in the order of the table. -/
def swapWait (names : List FlagName) (place : ℕ×ℕ) : List FlagName :=
  match names[place.1]?,names[place.2]? with
  | some a,some b =>
    if a.text="WSTOPPED" ∧ b.text="WEXITED" then (names.set place.1 b).set place.2 a else names
  | _,_ => names

/-- Order in which names are printed. -/
def printedOrder (xlatName : String) (names : List FlagName) : List FlagName :=
  if xlatName="wait4_options" then (waitPairs names.length).foldl swapWait names else names

/-- What is printed of a word without any flag of the table. -/
def decodeUnnamed (val : UInt64) (xlatName : String) (table : XlatTable) : DecodedFlags :=
  if val=0 then
    match table.entries.find? fun e => e.val==0 with
    | some e => ⟨[⟨e.str,0,.zero⟩],none⟩
    | none => ⟨[],none⟩
  else if xlatName="key_spec" then ⟨[],some val.toUInt32.toInt32.toInt64.toUInt64⟩
  else ⟨[],some val⟩

/-- What is printed of a flag word. -/
def decodeBitFlags (val : UInt64) (xlatName : String) (table : XlatTable) : DecodedFlags :=
  let covered := coverOf val xlatName table
  if covered.names=[] then decodeUnnamed val xlatName table
  else ⟨printedOrder xlatName covered.names,
    if covered.handled≠val ∧ val≠0 then remainderOf (val &&& ~~~covered.handled) else none⟩

/-- Hexadecimal text, with a plain zero. -/
def rawHexOrZero (val : UInt64) : String := if val=0 then "0" else prefixedHex val.toNat

/-- Names and remainder of a word. -/
def DecodedFlags.parts (d : DecodedFlags) : List String :=
  d.names.map (·.text) ++ d.remainder.toList.map fun bits => prefixedHex bits.toNat

/-- Text of a flag word. -/
def bitFlagsText (val : UInt64) (xlatName : String) (table : XlatTable) : String :=
  let d := decodeBitFlags val xlatName table
  match d.names,d.remainder with
  | [],none => "0"
  | [],some bits =>
    if xlatName="key_spec" then toString bits.toInt64.toInt
    else prefixedHex bits.toNat ++ " /* " ++ table.namePrefix ++ "??? */"
  | _,_ => "|".intercalate d.parts

end BitFlags

section Fields

/-- Number of the low 32 bits of a word. -/
def low32 (val : UInt64) : UInt64 := val &&& 0xFFFFFFFF

/-- Name of a value in a table. -/
def xlatNameForValue (catalog : Catalog) (xlatName : String) (val : UInt64) : Option String :=
  (catalog.tables xlatName).bind fun table =>
    (table.entries.find? fun e => e.val==val).map (·.str)

/-- Whether an entry of 32 bits is set. -/
def acceptsNarrow (v _handled : UInt64) (e : XlatVal) : Bool :=
  low32 e.val != 0 && (v &&& low32 e.val)==low32 e.val

/-- Entries of a table that may be missing. -/
def entriesOf (catalog : Catalog) (name : String) : List XlatVal :=
  match catalog.tables name with
  | some table => table.entries
  | none => []

/-- What is printed of the flags of a futex: its size, and the flags. -/
def futex2Parts (catalog : Catalog) (val : UInt64) : DecodedFlags :=
  let v := low32 val
  let size := v &&& 3
  let sizeName := (xlatNameForValue catalog "futex2_sizes" size).getD (rawHexOrZero size)
  let covered := (entriesOf catalog "futex2_flags").foldl
    (coverStep (acceptsNarrow v) fun e => low32 e.val) ⟨[⟨sizeName,size,.field⟩],3⟩
  ⟨covered.names,remainderOf (v &&& ~~~covered.handled)⟩

/-- Text of a value behind its number, as far as the format asks for it. -/
def formatted (format : XlatFormat) (raw decoded : String) : String :=
  match format with
  | .raw => raw
  | .verbose => raw ++ " /* " ++ decoded ++ " */"
  | .named => decoded

/-- Text of the flags of a futex. -/
def decodeFutex2Flags (catalog : Catalog) (val : UInt64) : String :=
  formatted catalog.format (rawHexOrZero (low32 val))
    ("|".intercalate (futex2Parts catalog val).parts)

/-- Bits of the page size of a memory file. -/
def hugeMask : UInt64 := 0xFC000000

/-- What is printed of the flags of a memory file: the flags, and the page size. -/
structure MemfdFlags where
  /-- The flags, if they are printed. -/
  base : Option DecodedFlags
  /-- Logarithm of the page size. -/
  hugeValue : UInt64

/-- Bits that are read back from the flags of a memory file. -/
def MemfdFlags.readBack (d : MemfdFlags) : UInt64 :=
  (d.base.map DecodedFlags.readBack).getD 0 ||| (d.hugeValue <<< 26)

/-- What is printed of the flags of a memory file. -/
def memfdParts (catalog : Catalog) (val : UInt64) : MemfdFlags :=
  let baseFlags := low32 val &&& ~~~hugeMask
  let hugeValue := (low32 val &&& hugeMask) >>> 26
  { base := (catalog.tables "memfd_create_flags").bind fun table =>
      if baseFlags≠0 ∨ hugeValue=0 then some (decodeBitFlags baseFlags "memfd_create_flags" table)
      else none
    hugeValue := hugeValue }

/-- Text of the flags of a memory file. -/
def decodeMemfdCreateFlags (catalog : Catalog) (val : UInt64) : String :=
  let v := low32 val
  if v=0 then rawHexOrZero v
  else
    let baseFlags := v &&& ~~~hugeMask
    let d := memfdParts catalog val
    let base := (catalog.tables "memfd_create_flags").bind fun table =>
      d.base.map fun _ => bitFlagsText baseFlags "memfd_create_flags" table
    let huge := if d.hugeValue≠0 then [toString d.hugeValue.toNat ++ "<<MFD_HUGE_SHIFT"] else []
    formatted catalog.format (rawHexOrZero v) ("|".intercalate (base.toList ++ huge))

/-- Name of the class of a notification group. -/
def fanClassName (fanClass : UInt64) : String :=
  if fanClass=0 then "FAN_CLASS_NOTIF" else if fanClass=4 then "FAN_CLASS_CONTENT"
  else if fanClass=8 then "FAN_CLASS_PRE_CONTENT"
  else prefixedHex fanClass.toNat ++ " /* FAN_CLASS_??? */"

/-- Whether a flag of a notification group is set; its classes are no flags. -/
def acceptsFan (v _handled : UInt64) (e : XlatVal) : Bool :=
  e.val != 0 && e.val != 4 && e.val != 8 && (v &&& low32 e.val)==low32 e.val

/-- What is printed of the flags of a notification group: its class, and the flags. -/
def fanInitParts (catalog : Catalog) (val : UInt64) : DecodedFlags :=
  let v := low32 val
  let fanClass := v &&& 0xc
  let covered := (entriesOf catalog "fan_init_flags").foldl
    (coverStep (acceptsFan v) fun e => low32 e.val)
    ⟨[⟨fanClassName fanClass,fanClass,.field⟩],fanClass⟩
  ⟨covered.names,remainderOf (v &&& ~~~covered.handled)⟩

/-- Text of the flags of a notification group. -/
def decodeFanInitFlags (catalog : Catalog) (val : UInt64) : String :=
  let d := fanInitParts catalog val
  let remaining := d.remainder.toList.map fun bits =>
    if 1 < d.names.length then prefixedHex bits.toNat
    else prefixedHex bits.toNat ++ " /* FAN_??? */"
  "|".intercalate (d.names.map (·.text) ++ remaining)

end Fields

section Unions

theorem orAll_append (front : List FlagName) (n : FlagName) :
    orAll (front ++ [n])=orAll front ||| n.bits := by
  induction front with
  | nil => exact UInt64.or_comm _ _
  | cons m front ih =>
    change m.bits ||| orAll (front ++ [n])=(m.bits ||| orAll front) ||| n.bits
    rw [ih,UInt64.or_assoc]

/-- The order of names does not matter to what is read back. -/
theorem orAll_perm {names listed : List FlagName} (h : names.Perm listed) :
    orAll names=orAll listed := by
  induction h with
  | nil => rfl
  | cons n _ ih =>
    change n.bits ||| orAll _=n.bits ||| orAll _
    rw [ih]
  | swap m n rest =>
    change n.bits ||| (m.bits ||| orAll rest)=m.bits ||| (n.bits ||| orAll rest)
    rw [← UInt64.or_assoc,← UInt64.or_assoc,UInt64.or_comm n.bits]
  | trans _ _ first second => exact first.trans second

theorem getD_remainderOf (bits : UInt64) : (remainderOf bits).getD 0=bits := by
  unfold remainderOf
  split_ifs with hzero
  · rw [hzero]
    rfl
  · rfl

theorem swapWait_perm (names : List FlagName) (place : ℕ×ℕ) :
    (swapWait names place).Perm names := by
  unfold swapWait
  split
  · rename_i a b ha hb
    split_ifs with hwait
    · rcases List.getElem?_eq_some_iff.mp ha with ⟨hi,rfl⟩
      rcases List.getElem?_eq_some_iff.mp hb with ⟨hj,rfl⟩
      exact List.set_set_perm hi hj
    · exact List.Perm.refl _
  · exact List.Perm.refl _

/-- Names are only reordered. -/
theorem printedOrder_perm (xlatName : String) (names : List FlagName) :
    (printedOrder xlatName names).Perm names := by
  unfold printedOrder
  split_ifs with hwait
  · generalize waitPairs names.length=pairs
    induction pairs generalizing names with
    | nil => exact List.Perm.refl _
    | cons pair pairs ih => exact (ih (swapWait names pair)).trans (swapWait_perm names pair)
  · exact List.Perm.refl _

end Unions

section Covers

variable {v : UInt64} {s : Cover} {accepts : UInt64 → XlatVal → Bool} {bits : XlatVal → UInt64}

/-- A cover of a word: its names lie inside the word, and with the bits that are not handled they
make up the word. -/
structure Covers (v : UInt64) (s : Cover) : Prop where
  /-- Nothing is lost or gained. -/
  rebuilds : orAll s.names ||| (v &&& ~~~s.handled)=v
  /-- Every name lies inside the word. -/
  within : ∀ n∈s.names, n.bits &&& v=n.bits

/-- An accepted entry whose bits are set keeps a cover. -/
theorem coverStep_covers {e : XlatVal}
    (haccepts : ∀ handled, accepts handled e=true → bits e=e.val ∧ e.val &&& v=e.val)
    (h : Covers v s) : Covers v (coverStep accepts bits s e) := by
  unfold coverStep
  split_ifs with htaken
  · have hentry := haccepts _ htaken
    constructor
    · dsimp only
      rw [orAll_append,hentry.1]
      exact move_bits h.rebuilds hentry.2
    · intro n hn
      rcases List.mem_append.mp hn with hold | hnew
      · exact h.within n hold
      · rw [List.mem_singleton.mp hnew]
        exact hentry.2
  · exact h

/-- So does a whole table. -/
theorem foldl_covers {entries : List XlatVal} (haccepts : ∀ e∈entries, ∀ handled,
    accepts handled e=true → bits e=e.val ∧ e.val &&& v=e.val) (h : Covers v s) :
    Covers v (entries.foldl (coverStep accepts bits) s) := by
  induction entries generalizing s with
  | nil => exact h
  | cons e entries ih =>
    have hstep := coverStep_covers (haccepts e List.mem_cons_self) h
    exact ih (fun other hother => haccepts other (List.mem_cons_of_mem _ hother)) hstep

/-- The names that a table adds are entries in its order. -/
theorem foldl_names (entries : List XlatVal) (s : Cover) :
    ∃ added, (entries.foldl (coverStep accepts bits) s).names=s.names ++ added ∧
      added.Sublist (entries.map flagOf) := by
  induction entries generalizing s with
  | nil => exact ⟨[],(List.append_nil _).symm,List.Sublist.refl _⟩
  | cons e entries ih =>
    rcases ih (coverStep accepts bits s e) with ⟨added,hnames,horder⟩
    rw [List.foldl_cons,hnames,List.map_cons]
    unfold coverStep
    split_ifs with htaken
    · refine ⟨flagOf e::added,?_,horder.cons_cons _⟩
      dsimp only
      rw [List.append_assoc,List.singleton_append]
    · exact ⟨added,rfl,horder.cons _⟩

/-- Every flag has a bit that the names in front of it do not cover. -/
def Contributes (names : List FlagName) : Prop :=
  ∀ front n behind, names=front ++ n::behind → n.kind=.flag → n.bits &&& ~~~orAll front≠0

theorem contributes_append {names : List FlagName} {n : FlagName} (h : Contributes names)
    (hn : n.bits &&& ~~~orAll names≠0) : Contributes (names ++ [n]) := by
  intro front m behind hsplit hkind
  rcases List.eq_nil_or_concat behind with hnil | ⟨init,last,hlast⟩
  · rw [hnil] at hsplit
    have hsame := List.append_inj' hsplit rfl
    rw [← (List.cons.inj hsame.2).1,← hsame.1]
    exact hn
  · rw [hlast,List.concat_eq_append,← List.cons_append,← List.append_assoc] at hsplit
    exact h front m init (List.append_inj' hsplit rfl).1 hkind

/-- A greedy cover handles exactly the bits of its names, and each flag contributes. -/
structure Greedy (s : Cover) : Prop where
  /-- The handled bits are those of the names. -/
  handled : s.handled=orAll s.names
  /-- Every flag has a bit of its own. -/
  contributes : Contributes s.names

/-- A table keeps a cover greedy. -/
theorem foldl_greedy {entries : List XlatVal} (h : Greedy s) :
    Greedy (entries.foldl (coverStep (acceptsFlag v) XlatVal.val) s) := by
  induction entries generalizing s with
  | nil => exact h
  | cons e entries ih =>
    apply ih
    unfold coverStep
    split_ifs with htaken
    · have hnew : s.handled &&& e.val≠e.val := by
        unfold acceptsFlag at htaken
        rw [Bool.and_eq_true,bne_iff_ne] at htaken
        exact htaken.2
      constructor
      · dsimp only
        rw [orAll_append,h.handled]
        rfl
      · apply contributes_append h.contributes
        rw [← h.handled]
        exact rest_ne_zero hnew
    · exact h

end Covers

section Laws

theorem and_self_within (v mask : UInt64) : (v &&& mask) &&& v=v &&& mask := by
  rw [UInt64.and_comm,← UInt64.and_assoc,UInt64.and_self]

/-- A field that is carved out covers the word with the rest. -/
theorem covers_field (v mask : UInt64) (text : String) (kind : NameKind) :
    Covers v ⟨[⟨text,v &&& mask,kind⟩],mask⟩ where
  rebuilds := by
    change (v &&& mask ||| 0) ||| (v &&& ~~~mask)=v
    rw [UInt64.or_zero]
    exact split_word v mask
  within n hn := by
    rw [List.mem_singleton.mp hn]
    exact and_self_within v mask

/-- A field also covers the word if only its own bits are handled. -/
theorem covers_value (v mask : UInt64) (text : String) (kind : NameKind) :
    Covers v ⟨[⟨text,v &&& mask,kind⟩],v &&& mask⟩ where
  rebuilds := by
    have hsplit := split_word v (v &&& mask)
    rw [← UInt64.and_assoc,UInt64.and_self] at hsplit
    change (v &&& mask ||| 0) ||| (v &&& ~~~(v &&& mask))=v
    rw [UInt64.or_zero]
    exact hsplit
  within n hn := by
    rw [List.mem_singleton.mp hn]
    exact and_self_within v mask

theorem covers_nil (v : UInt64) : Covers v ⟨[],0⟩ where
  rebuilds := by
    change 0 ||| (v &&& ~~~0)=v
    rw [UInt64.zero_or]
    exact UInt64.and_neg_one
  within n hn := absurd hn List.not_mem_nil

theorem baseCover_covers (val : UInt64) (xlatName : String) :
    Covers val (baseCover val xlatName) := by
  unfold baseCover
  split_ifs
  · exact covers_value val 3 _ _
  · exact covers_nil val

theorem baseCover_greedy (val : UInt64) (xlatName : String) :
    Greedy (baseCover val xlatName) := by
  unfold baseCover
  split_ifs
  · constructor
    · exact (UInt64.or_zero).symm
    · intro front n behind hsplit hkind
      rcases List.append_eq_singleton_iff.mp hsplit.symm with ⟨-,hn⟩ | ⟨-,hn⟩
      · rw [← (List.cons.inj hn.symm).1] at hkind
        exact nomatch hkind
      · exact absurd hn (List.cons_ne_nil _ _)
  · constructor
    · rfl
    · intro front n behind hsplit
      exact absurd hsplit.symm (by simp)

theorem coverOf_covers (val : UInt64) (xlatName : String) (table : XlatTable) :
    Covers val (coverOf val xlatName table) := by
  refine foldl_covers (fun e _ handled htaken => ⟨rfl,?_⟩) (baseCover_covers val xlatName)
  unfold acceptsFlag at htaken
  simp only [Bool.and_eq_true,beq_iff_eq] at htaken
  rw [UInt64.and_comm]
  exact htaken.1.2

/-- What is printed without a flag of the table stands for the whole word. -/
theorem decodeUnnamed_readBack {xlatName : String} (hname : xlatName≠"key_spec") (val : UInt64)
    (table : XlatTable) : (decodeUnnamed val xlatName table).readBack=val := by
  unfold decodeUnnamed
  split_ifs with hzero
  · rw [hzero]
    split
    · change ((0 : UInt64) ||| 0) ||| 0=0
      decide
    · rfl
  · exact UInt64.zero_or

/-- Reading back a cover and its remainder gives the word. -/
theorem readBack_cover {v : UInt64} {s : Cover} (h : Covers v s) :
    DecodedFlags.readBack ⟨s.names,remainderOf (v &&& ~~~s.handled)⟩=v := by
  unfold DecodedFlags.readBack
  dsimp only
  rw [getD_remainderOf]
  exact h.rebuilds

/-- What is printed of a flag word: nothing is lost, every name lies inside the word, and in the
order of the table, which only the wait options leave, every flag contributes. -/
structure Preserves (val : UInt64) (xlatName : String) (table : XlatTable) (d : DecodedFlags) :
    Prop where
  /-- Reading back gives the word. -/
  readBack : d.readBack=val
  /-- Names stand for bits of the word. -/
  within : ∀ n∈d.names, n.bits &&& val=n.bits
  /-- Flags contribute in the order of the table. -/
  order : ∃ listed, d.names=printedOrder xlatName listed ∧ Contributes listed ∧
    (listed.filter fun n => n.kind==.flag).Sublist (table.entries.map flagOf)

/-- Names that are no flags contribute nothing of their own. -/
theorem contributes_of_kind {names : List FlagName} (h : ∀ n∈names, n.kind≠.flag) :
    Contributes names := by
  intro front n behind hsplit hkind
  refine absurd hkind (h n ?_)
  rw [hsplit]
  exact List.mem_append_right _ List.mem_cons_self

theorem filter_of_kind {names : List FlagName} (h : ∀ n∈names, n.kind≠.flag) :
    (names.filter fun n => n.kind==.flag)=[] := by
  apply List.filter_eq_nil_iff.mpr
  intro n hn
  rw [beq_iff_eq]
  exact h n hn

theorem decodeUnnamed_names (val : UInt64) (xlatName : String) (table : XlatTable) :
    ∀ n∈(decodeUnnamed val xlatName table).names, n.bits=0 ∧ n.kind≠.flag := by
  intro n hn
  unfold decodeUnnamed at hn
  split_ifs at hn
  · split at hn
    · rw [List.mem_singleton.mp hn]
      exact ⟨rfl,fun hflag => nomatch hflag⟩
    · exact absurd hn List.not_mem_nil
  · exact absurd hn List.not_mem_nil
  · exact absurd hn List.not_mem_nil

theorem coverOf_order (val : UInt64) (xlatName : String) (table : XlatTable) :
    ((coverOf val xlatName table).names.filter fun n => n.kind==.flag).Sublist
      (table.entries.map flagOf) := by
  rcases foldl_names table.entries (baseCover val xlatName) with ⟨added,hnames,horder⟩
  have hbase : ((baseCover val xlatName).names.filter fun n => n.kind==.flag)=[] := by
    apply filter_of_kind
    intro n hn
    unfold baseCover at hn
    split_ifs at hn
    · rw [List.mem_singleton.mp hn]
      exact fun hflag => nomatch hflag
    · exact absurd hn List.not_mem_nil
  unfold coverOf
  rw [hnames,List.filter_append,hbase,List.nil_append]
  exact List.filter_sublist.trans horder

/-- A single name has no other order. -/
theorem printedOrder_short (xlatName : String) {names : List FlagName} (h : names.length ≤ 1) :
    printedOrder xlatName names=names := by
  unfold printedOrder
  split_ifs
  · match names with
    | [] => rfl
    | [n] => rfl
    | m::n::rest =>
      rw [List.length_cons,List.length_cons] at h
      omega
  · rfl

theorem decodeUnnamed_length (val : UInt64) (xlatName : String) (table : XlatTable) :
    (decodeUnnamed val xlatName table).names.length ≤ 1 := by
  unfold decodeUnnamed
  split_ifs
  · split <;> simp
  · simp
  · simp

/-- Reordered names and the rest of a cover give the word again, whether or not there is a rest
to print. -/
theorem readBack_printed {val : UInt64} {s : Cover} (h : Covers val s) (xlatName : String) :
    DecodedFlags.readBack ⟨printedOrder xlatName s.names,
      if s.handled≠val ∧ val≠0 then remainderOf (val &&& ~~~s.handled) else none⟩=val := by
  have hunion := orAll_perm (printedOrder_perm xlatName s.names)
  have hremainder : (if s.handled≠val ∧ val≠0 then remainderOf (val &&& ~~~s.handled)
      else none).getD 0=val &&& ~~~s.handled := by
    split_ifs with hrest
    · exact getD_remainderOf _
    · rw [not_and_or,not_not,not_not] at hrest
      rcases hrest with hall | hzero
      · rw [hall]
        exact UInt64.and_not_self.symm
      · rw [hzero]
        exact UInt64.zero_and.symm
  unfold DecodedFlags.readBack
  dsimp only
  rw [hunion,hremainder]
  exact h.rebuilds

/-- Every flag word is preserved by what is printed of it. -/
theorem decodeBitFlags_preserves {xlatName : String} (hname : xlatName≠"key_spec") (val : UInt64)
    (table : XlatTable) : Preserves val xlatName table (decodeBitFlags val xlatName table) := by
  have hcovers := coverOf_covers val xlatName table
  unfold decodeBitFlags
  dsimp only
  by_cases hempty : (coverOf val xlatName table).names=[]
  · have hnames := decodeUnnamed_names val xlatName table
    have hkind := fun n hn => (hnames n hn).2
    have horder := printedOrder_short xlatName (decodeUnnamed_length val xlatName table)
    rw [if_pos hempty]
    refine ⟨decodeUnnamed_readBack hname val table,fun n hn => ?_,_,horder.symm,
      contributes_of_kind hkind,?_⟩
    · rw [(hnames n hn).1]
      exact UInt64.zero_and
    · rw [filter_of_kind hkind]
      exact List.nil_sublist _
  · have hgreedy : Greedy (coverOf val xlatName table) :=
      foldl_greedy (baseCover_greedy val xlatName)
    rw [if_neg hempty]
    refine ⟨readBack_printed hcovers xlatName,fun n hn => ?_,_,rfl,hgreedy.contributes,
      coverOf_order val xlatName table⟩
    exact hcovers.within n ((printedOrder_perm xlatName _).mem_iff.mp hn)

/-- The entries of a table in a catalog. -/
theorem entriesOf_withTable (catalog : Catalog) (name : String) (table : XlatTable) :
    entriesOf (catalog.withTable name table) name=table.entries := by
  unfold entriesOf Catalog.withTable
  dsimp only
  rw [if_pos rfl]

theorem futex2_readBack (catalog : Catalog) (t : NarrowTable) (val : UInt64) :
    (futex2Parts (catalog.withTable "futex2_flags" t.table) val).readBack=low32 val := by
  unfold futex2Parts
  dsimp only
  rw [entriesOf_withTable]
  refine readBack_cover (foldl_covers (fun e he handled htaken => ?_) (covers_field _ 3 _ _))
  have hnarrow : low32 e.val=e.val := (t.narrow e he).2
  unfold acceptsNarrow at htaken
  rw [hnarrow,Bool.and_eq_true,beq_iff_eq,UInt64.and_comm] at htaken
  exact ⟨hnarrow,htaken.2⟩

theorem fanInit_readBack (catalog : Catalog) (t : NarrowTable) (val : UInt64) :
    (fanInitParts (catalog.withTable "fan_init_flags" t.table) val).readBack=low32 val := by
  unfold fanInitParts
  dsimp only
  rw [entriesOf_withTable]
  refine readBack_cover (foldl_covers (fun e he handled htaken => ?_) (covers_value _ 0xc _ _))
  have hnarrow : low32 e.val=e.val := (t.narrow e he).2
  unfold acceptsFan at htaken
  rw [hnarrow,Bool.and_eq_true,beq_iff_eq,UInt64.and_comm] at htaken
  exact ⟨hnarrow,htaken.2⟩

/-- The bits of the page size are moved down and back without loss. -/
theorem hugeMask_shift (v : UInt64) : ((v &&& hugeMask) >>> 26) <<< 26=v &&& hugeMask := by
  have hlow : ∀ i < 26, hugeMask.toBitVec.getLsbD i=false := by decide
  apply bits_ext
  intro i hi
  simp only [UInt64.toBitVec_shiftLeft,UInt64.toBitVec_shiftRight,UInt64.toBitVec_and]
  by_cases hshifted : i < 26
  · have hoff := hlow i hshifted
    rw [BitVec.getLsbD_eq_getElem hi] at hoff
    simp [hi,hshifted,hoff]
  · have hback : 26+(i-26)=i := by omega
    simp [hi,hshifted,hback,BitVec.getLsbD_eq_getElem]

theorem memfd_readBack (catalog : Catalog) (t : NarrowTable) (val : UInt64) :
    (memfdParts (catalog.withTable "memfd_create_flags" t.table) val).readBack=low32 val := by
  have hsplit := split_word (low32 val) hugeMask
  have htable : (catalog.withTable "memfd_create_flags" t.table).tables "memfd_create_flags"=
      some t.table := by
    unfold Catalog.withTable
    dsimp only
    rw [if_pos rfl]
  unfold memfdParts MemfdFlags.readBack
  dsimp only
  rw [htable,hugeMask_shift,Option.bind_some]
  split_ifs with hbase
  · have hflags := (decodeBitFlags_preserves (by decide) (low32 val &&& ~~~hugeMask) t.table :
      Preserves _ "memfd_create_flags" _ _).readBack
    rw [Option.map_some,Option.getD_some,hflags,UInt64.or_comm]
    exact hsplit
  · rw [not_or,not_not] at hbase
    rw [hbase.1,UInt64.or_zero] at hsplit
    rw [Option.map_none,Option.getD_none,UInt64.zero_or]
    exact hsplit

/-- What is printed of a word gives it back: in every flag table, each flag contributing in the
order of the table, and in the three decoders with a field of their own. -/
theorem flags_give_back_the_word :
    (∀ (xlatName : String) (table : XlatTable) (val : UInt64), xlatName≠"key_spec" →
      Preserves val xlatName table (decodeBitFlags val xlatName table)) ∧
    ∀ (catalog : Catalog) (t : NarrowTable) (val : UInt64),
      (futex2Parts (catalog.withTable "futex2_flags" t.table) val).readBack=low32 val ∧
      (memfdParts (catalog.withTable "memfd_create_flags" t.table) val).readBack=low32 val ∧
      (fanInitParts (catalog.withTable "fan_init_flags" t.table) val).readBack=low32 val :=
  ⟨fun _ table val hname => decodeBitFlags_preserves hname val table,fun catalog t val =>
    ⟨futex2_readBack catalog t val,memfd_readBack catalog t val,fanInit_readBack catalog t val⟩⟩

/-- A word of two overlapping flags and a bit without a name. -/
theorem flags_give_back_seven :
    Preserves 7 "access_modes" ⟨"",[⟨1,"X_OK"⟩,⟨3,"XW_OK"⟩]⟩
      (decodeBitFlags 7 "access_modes" ⟨"",[⟨1,"X_OK"⟩,⟨3,"XW_OK"⟩]⟩) :=
  flags_give_back_the_word.1 "access_modes" ⟨"",[⟨1,"X_OK"⟩,⟨3,"XW_OK"⟩]⟩ 7 (by decide)

/-- In the printed order of the wait options a flag can be covered by the ones in front of it. -/
theorem wait_order_covers :
    ¬Contributes (decodeBitFlags 3 "wait4_options" ⟨"",[⟨1,"WSTOPPED"⟩,⟨3,"WEXITED"⟩]⟩).names := by
  have hnames : (decodeBitFlags 3 "wait4_options" ⟨"",[⟨1,"WSTOPPED"⟩,⟨3,"WEXITED"⟩]⟩).names=
      [⟨"WEXITED",3,.flag⟩] ++ ⟨"WSTOPPED",1,.flag⟩::[] := by decide
  intro h
  exact h _ _ _ hnames rfl (by decide)

end Laws

end StraceGo.XlatFlags

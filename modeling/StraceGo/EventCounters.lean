import StraceGo.DescriptorPaths
import StraceGo.FDStateCloseRange

/-!
# Counters of event descriptors

The store keeps the counter of an event descriptor as part of the text of its
path. A read or a write finds the value in the text, and puts the next value in
its place. The text is always that of the counter, which is bounded, and a write
that does not tell its value or exceeds the bound leaves it. No other path is
ever taken for a counter.
-/

namespace StraceGo.EventCounters

open EventEnvelope FiniteMaps EventTaskLifecycle GoText KeyedMaps FDStateEvents FDState FDStateReuse
open DescriptorPaths FDStateCloseRange

section Numerals

/-- The text of a count is read back. -/
theorem parseLiteral_count (count : UInt64) :
    parseLiteral 64 (formatEventFDStateCount count)=some count.toNat := by
  unfold formatEventFDStateCount
  split_ifs with hzero
  · rw [hzero]
    decide
  · exact parseLiteral_prefixedHex count.toNat_lt

/-- The text of a count holds neither a separator nor a letter of the name of semaphores. -/
theorem notMem_count (count : UInt64) : ','∉(formatEventFDStateCount count).toList ∧
    's'∉(formatEventFDStateCount count).toList := by
  have hletters : ∀ c, c≠ '0' → c≠ 'x' → (∀ d < 16, Nat.digitChar d≠c) →
      c∉(formatEventFDStateCount count).toList := by
    intro c hzero hx hdigits hc
    unfold formatEventFDStateCount hex at hc
    split_ifs at hc
    · exact hzero (List.mem_singleton.mp hc)
    · rw [String.toList_append,String.toList_ofList,String.toList_ofList] at hc
      rcases List.mem_append.mp hc with hmark | hdigit
      · rcases List.mem_cons.mp hmark with hfirst | hsecond
        · exact hzero hfirst
        · exact hx (List.mem_singleton.mp hsecond)
      · exact notMem_hex hdigits _ hdigit
  exact ⟨hletters ',' (by decide) (by decide) (by decide),
    hletters 's' (by decide) (by decide) (by decide)⟩

end Numerals

section Texts

variable (state : EventFDState)

/-- Text in front of the count. -/
def countMark : String := "anon_inode:[eventfd],eventfd-count="

/-- Text behind the count. -/
def detailsText : String :=
  ",eventfd-id=" ++ toString state.id.toInt ++ ",eventfd-semaphore=" ++
    toString state.semaphore.toNat

theorem eventFDStateTarget_eq : eventFDStateTarget state=
    countMark ++ formatEventFDStateCount state.count ++ detailsText state := by
  unfold eventFDStateTarget countMark detailsText
  rw [← String.append_assoc,← String.append_assoc,← String.append_assoc]

/-- The count is found in the text of a counter, with the text around it. -/
theorem eventFDCountFromTarget_target : eventFDCountFromTarget (eventFDStateTarget state)=
    some (countMark,state.count,detailsText state) := by
  have hlist : (eventFDStateTarget state).toList=countMark.toList ++
      ((formatEventFDStateCount state.count).toList ++ (detailsText state).toList) := by
    rw [eventFDStateTarget_eq,String.toList_append,String.toList_append,List.append_assoc]
  have hdetails : ∃ rest, (detailsText state).toList= ','::rest := by
    refine ⟨("eventfd-id=" ++ toString state.id.toInt ++ ",eventfd-semaphore=" ++
      toString state.semaphore.toNat).toList,?_⟩
    unfold detailsText
    simp only [String.toList_append]
    rfl
  have hvalue : ((formatEventFDStateCount state.count).toList ++
      (detailsText state).toList).takeWhile (fun c => decide (c≠ ','))=
      (formatEventFDStateCount state.count).toList := by
    rcases hdetails with ⟨rest,hrest⟩
    rw [hrest,List.takeWhile_append_of_pos,List.takeWhile_cons_of_neg (by decide),List.append_nil]
    intro c hc
    rw [decide_eq_true_iff]
    intro hcomma
    rw [hcomma] at hc
    exact (notMem_count state.count).1 hc
  have hprefix : hasPrefix (eventFDStateTarget state) "anon_inode:[eventfd],"=true := by
    unfold hasPrefix
    rw [hlist]
    rfl
  have hindex : index "eventfd-count=".toList (eventFDStateTarget state).toList=some 21 := by
    rw [hlist]
    rfl
  have hdrop : (eventFDStateTarget state).toList.drop (21+"eventfd-count=".toList.length)=
      (formatEventFDStateCount state.count).toList ++ (detailsText state).toList := by
    rw [hlist]
    rfl
  have htake : (eventFDStateTarget state).toList.take (21+"eventfd-count=".toList.length)=
      countMark.toList := by
    rw [hlist]
    rfl
  unfold eventFDCountFromTarget
  dsimp only
  rw [ hprefix,if_neg (by decide),hindex]
  dsimp only
  rw [hdrop,htake,hvalue,List.drop_left,String.ofList_toList,String.ofList_toList,
    String.ofList_toList,parseLiteral_count,Option.map_some,UInt64.ofNat_toNat]

/-- Characters in front of the name of semaphores. -/
def beforeMode : List Char :=
  countMark.toList ++ (formatEventFDStateCount state.count).toList ++
    ((",eventfd-id=").toList ++ (toString state.id.toInt).toList ++ (",eventfd-").toList)

theorem toList_target : (eventFDStateTarget state).toList=
    beforeMode state ++ ("semaphore=" ++ toString state.semaphore.toNat).toList := by
  rw [eventFDStateTarget_eq]
  unfold detailsText beforeMode
  simp only [String.toList_append,List.append_assoc]
  rfl

theorem notMem_beforeMode : 's'∉beforeMode state := by
  have hid : 's'∉(toString state.id.toInt).toList :=
    notMem_toString_int (by decide) (by decide) _
  unfold beforeMode
  simp only [List.mem_append,not_or]
  exact ⟨⟨by decide,(notMem_count state.count).2⟩,⟨by decide,hid⟩,by decide⟩

/-- The mark of semaphores, with the value behind it, stands at the end of the text of a counter
and nowhere else. -/
theorem contains_semaphore (h : state.semaphore=0 ∨ state.semaphore=1) :
    contains (eventFDStateTarget state) "eventfd-semaphore=1"=decide (state.semaphore=1) := by
  unfold contains
  rw [Bool.eq_iff_iff,index_isSome_iff,decide_eq_true_iff,toList_target]
  constructor
  · rintro ⟨before,after,hpart⟩
    rcases h with hzero | hone
    · rw [hzero,List.append_assoc] at hpart
      have hboth : (before ++ "eventfd-".toList) ++ 's'::("emaphore=1".toList ++ after)=
          beforeMode state ++ 's'::"emaphore=0".toList := by
        rw [List.append_assoc]
        exact hpart
      have hrest := (List.append_cons_inj_of_notMem (notMem_beforeMode state) (by decide)).mp
        hboth.symm
      have hten : "emaphore=0".toList="emaphore=1".toList := congrArg (List.take 10) hrest.2.2
      exact absurd hten (by decide)
    · exact hone
  · intro hone
    rw [hone]
    refine ⟨countMark.toList ++ (formatEventFDStateCount state.count).toList ++
      ((",eventfd-id=").toList ++ (toString state.id.toInt).toList ++ [',']),[],?_⟩
    unfold beforeMode
    simp only [List.append_assoc,List.append_nil]
    rfl

/-- The start of a text is cut off. -/
theorem cutPrefix_append (start rest : String) : cutPrefix (start ++ rest) start=some rest := by
  have hstart : hasPrefix (start ++ rest) start=true := by
    unfold hasPrefix
    rw [String.toList_append,List.isPrefixOf_iff_prefix]
    exact List.prefix_append _ _
  unfold cutPrefix trimPrefix
  rw [if_pos hstart,if_pos hstart,String.toList_append,List.drop_left,String.ofList_toList]

/-- The identity of a counter is read back. -/
theorem parseInt_id {id : Int32} (h : 0 ≤ id) : parseInt 32 (toString id.toInt)=some id.toInt := by
  have hnonneg : 0 ≤ id.toInt := Int32.le_iff_toInt_le.mp h
  have hbound := id.toInt_lt
  have htext : toString id.toInt=toString id.toInt.toNat := by
    rw [toString_int_eq,if_pos hnonneg]
  have hunsigned : cutSign (toString id.toInt.toNat).toList=
      (false,(toString id.toInt.toNat).toList) := by
    have hdigit : ∀ c∈(toString id.toInt.toNat).toList, c.isDigit=true :=
      fun c hc => isDigit_of_mem_toString hc
    unfold cutSign
    split
    · rename_i heq
      exact absurd (hdigit '+' (heq ▸ List.mem_cons_self)) (by decide)
    · rename_i heq
      exact absurd (hdigit '-' (heq ▸ List.mem_cons_self)) (by decide)
    · rfl
  unfold parseInt
  rw [htext,hunsigned]
  dsimp only
  rw [String.ofList_toList,parseDecimal_toString (by omega)]
  dsimp only
  rw [if_neg Bool.false_ne_true,if_neg (by omega),Int.toNat_of_nonneg hnonneg]

/-- The decoder of targets shows the counter that the text was made from. -/
theorem decodeEventFDTarget_target (hid : 0 ≤ state.id)
    (h : state.semaphore=0 ∨ state.semaphore=1) :
    decodeEventFDTarget (eventFDStateTarget state)=some (eventFDPath,
      "\x7beventfd-count=" ++ formatEventFDStateCount state.count ++ ", eventfd-id=" ++
        toString state.id.toInt ++ ", eventfd-semaphore=" ++ toString state.semaphore.toNat ++
        "\x7d") := by
  have hfields : eventFDStateTarget state=(eventFDPath ++ ",") ++ String.intercalate ","
      ["eventfd-count=" ++ formatEventFDStateCount state.count,
        "eventfd-id=" ++ toString state.id.toInt,
        "eventfd-semaphore=" ++ toString state.semaphore.toNat] := by
    have hjoin : ∀ a b c : String, String.intercalate "," [a,b,c]=a ++ "," ++ b ++ "," ++ c :=
      fun _ _ _ => rfl
    apply String.toList_inj.mp
    rw [hjoin]
    unfold eventFDStateTarget eventFDPath
    simp only [String.toList_append,List.append_assoc]
    rfl
  have hparts : ∀ part∈["eventfd-count=" ++ formatEventFDStateCount state.count,
      "eventfd-id=" ++ toString state.id.toInt,
      "eventfd-semaphore=" ++ toString state.semaphore.toNat], ','∉part.toList := by
    intro part hpart
    simp only [List.mem_cons,List.not_mem_nil,or_false] at hpart
    rcases hpart with rfl | rfl | rfl
    · rw [String.toList_append,List.mem_append,not_or]
      exact ⟨by decide,(notMem_count state.count).1⟩
    · rw [String.toList_append,List.mem_append,not_or]
      exact ⟨by decide,notMem_toString_int (by decide) (by decide) _⟩
    · rw [String.toList_append,List.mem_append,not_or]
      exact ⟨by decide,fun hc => absurd (isDigit_of_mem_toString hc) (by decide)⟩
  have hne : eventFDStateTarget state≠eventFDPath := by
    intro hsame
    have hcount := eventFDCountFromTarget_target state
    rw [hsame] at hcount
    have hnone : eventFDCountFromTarget eventFDPath=none := by decide
    exact absurd (hnone.symm.trans hcount).symm (Option.some_ne_none _)
  have hnonneg : decide (0 ≤ state.id.toInt)=true :=
    decide_eq_true (Int32.le_iff_toInt_le.mp hid)
  have hsemaphore : parseEventFDSemaphore ("eventfd-semaphore=" ++ toString state.semaphore.toNat)=
      some (toString state.semaphore.toNat) := by
    unfold parseEventFDSemaphore
    rw [cutPrefix_append,Option.filter_some,if_pos]
    rcases h with hzero | hone
    · rw [hzero]
      decide
    · rw [hone]
      decide
  unfold decodeEventFDTarget
  rw [if_neg hne,hfields,cutPrefix_append]
  dsimp only
  rw [split_intercalate rfl (List.cons_ne_nil _ _) hparts]
  dsimp only
  unfold parseEventFDCount parseEventFDID
  rw [cutPrefix_append,cutPrefix_append,Option.bind_some,Option.bind_some,parseLiteral_count,
    parseInt_id hid,Option.filter_some,if_pos hnonneg,hsemaphore]
  dsimp only
  rw [UInt64.ofNat_toNat]

end Texts

section Kernel

variable {D M : Type} [DecidableEq D] [DecidableEq M]

/-- Directory entries and mounts of the kernel. -/
structure PathTree (D M : Type) where
  /-- Parent of an entry. -/
  parent : D → Option D
  /-- Root of a mount. -/
  mntRoot : M → Option D
  /-- Mount that a mount stands in. -/
  mntParent : M → Option M
  /-- Entry that a mount stands on. -/
  mountpoint : M → Option D

/-- Number of steps, and of entries, of a path that is captured. -/
def fdPathDentryMax : ℕ := 8

/-- Entries from a root to a file, if the root is reached. -/
def readDentryPath (tree : PathTree D M) : ℕ → Option D → Option M → List D → Option (List D)
  | 0,_,_,_ => none
  | _+1,none,_,_ => none
  | steps+1,some dentry,mnt,components =>
    if mnt.bind tree.mntRoot=some dentry then
      match mnt.bind tree.mntParent with
      | none => some components
      | some up =>
        if mnt=some up then some components
        else readDentryPath tree steps (mnt.bind tree.mountpoint) (some up) components
    else if fdPathDentryMax ≤ components.length then none
    else
      match tree.parent dentry with
      | none => none
      | some parent =>
        if parent=dentry then none
        else readDentryPath tree steps (some parent) mnt (dentry::components)

/-- File of an anonymous descriptor: its entry is in no directory, and not the root of its
mount. -/
structure AnonymousFile (tree : PathTree D M) where
  /-- Its entry. -/
  dentry : D
  /-- Its mount. -/
  mnt : M
  /-- The entry is its own parent. -/
  selfParent : tree.parent dentry=some dentry
  /-- The entry is no root. -/
  notRoot : tree.mntRoot mnt≠some dentry

/-- An anonymous file has no path. -/
theorem readDentryPath_anonymous {tree : PathTree D M} (file : AnonymousFile tree) :
    readDentryPath tree fdPathDentryMax (some file.dentry) (some file.mnt) []=none := by
  have hroot : ¬(some file.mnt).bind tree.mntRoot=some file.dentry := file.notRoot
  have hfirst : ¬fdPathDentryMax ≤ ([] : List D).length := Nat.not_succ_le_zero 7
  unfold fdPathDentryMax
  unfold readDentryPath
  rw [if_neg hroot,if_neg hfirst,file.selfParent]
  exact if_pos rfl

end Kernel

section Counters

/-- Largest value of a counter. -/
def maxCount : ℕ := 2^64-2

/-- A counter of events. -/
structure Counter where
  /-- Its value. -/
  value : ℕ
  /-- Whether reads take one unit. -/
  semaphore : Bool
  /-- The value is bounded. -/
  bounded : value ≤ maxCount

/-- A transfer of eight bytes; a write with its value, if that was captured. -/
inductive CounterIO where
  | read
  | write (value : Option UInt64)

namespace Counter

variable (c : Counter)

/-- Counter after a transfer. -/
def step : CounterIO → Counter
  | .read =>
    if c.semaphore=true ∧ 0 < c.value then
      ⟨c.value-1,c.semaphore,Nat.le_trans (Nat.sub_le _ _) c.bounded⟩
    else ⟨0,c.semaphore,Nat.zero_le _⟩
  | .write none => c
  | .write (some value) =>
    if h : c.value+value.toNat ≤ maxCount then ⟨c.value+value.toNat,c.semaphore,h⟩ else c

/-- Counter after several transfers. -/
def run (ios : List CounterIO) : Counter := ios.foldl step c

/-- A write whose value is missing or too large. -/
def Rejects : CounterIO → Prop
  | .read => False
  | .write none => True
  | .write (some value) => maxCount < c.value+value.toNat

theorem step_of_rejects {io : CounterIO} (h : c.Rejects io) : c.step io=c := by
  cases io with
  | read => exact h.elim
  | write value =>
    cases value with
    | none => rfl
    | some value => exact dif_neg (Nat.not_le.mpr h)

/-- No transfer changes how reads are counted. -/
theorem semaphore_step (io : CounterIO) : (c.step io).semaphore=c.semaphore := by
  cases io with
  | read =>
    unfold step
    dsimp only
    split_ifs <;> rfl
  | write value =>
    cases value with
    | none => rfl
    | some value =>
      unfold step
      dsimp only
      split_ifs <;> rfl

theorem semaphore_run (ios : List CounterIO) : (c.run ios).semaphore=c.semaphore := by
  unfold run
  induction ios generalizing c with
  | nil => rfl
  | cons io ios ih => exact (ih (c.step io)).trans (c.semaphore_step io)

theorem run_append (ios : List CounterIO) (io : CounterIO) :
    c.run (ios ++ [io])=(c.run ios).step io := List.foldl_append

/-- Snapshot of a counter. -/
def snapshot (id : Int32) : EventFDState :=
  ⟨UInt64.ofNat c.value,id,if c.semaphore then 1 else 0⟩

theorem count_snapshot (id : Int32) : (c.snapshot id).count.toNat=c.value := by
  have hbounded := c.bounded
  unfold maxCount at hbounded
  change (UInt64.ofNat c.value).toNat=c.value
  rw [UInt64.toNat_ofNat']
  omega

theorem semaphore_snapshot (id : Int32) :
    (c.snapshot id).semaphore=0 ∨ (c.snapshot id).semaphore=1 := by
  unfold snapshot
  dsimp only
  split_ifs
  · exact Or.inr rfl
  · exact Or.inl rfl

theorem isSemaphore_snapshot (id : Int32) :
    decide ((c.snapshot id).semaphore=1)=c.semaphore := by
  unfold snapshot
  cases c.semaphore <;> rfl

variable {c}

/-- The count after a read is that of the counter. -/
theorem countAfterRead (src : FDStateSource) (id : Int32) : ∃ next,
    eventFDCountAfterIO src .read (eventFDStateTarget (c.snapshot id)) (c.snapshot id).count=
      some next ∧ next.toNat=(c.step .read).value := by
  have hcount := c.count_snapshot id
  have hmark : contains (eventFDStateTarget (c.snapshot id)) "eventfd-semaphore=1"=
      c.semaphore := by
    rw [contains_semaphore _ (c.semaphore_snapshot id),c.isSemaphore_snapshot]
  have hpos : 0 < (c.snapshot id).count ↔ 0 < c.value := by
    rw [UInt64.lt_iff_toNat_lt,hcount]
    rfl
  unfold eventFDCountAfterIO step
  rw [if_pos rfl,hmark]
  dsimp only
  by_cases htakes : c.semaphore=true ∧ 0 < c.value
  · rw [if_pos ⟨htakes.1,hpos.mpr htakes.2⟩,if_pos htakes]
    refine ⟨_,rfl,?_⟩
    rw [UInt64.toNat_sub_of_le _ _ (by rw [UInt64.le_iff_toNat_le,hcount]; exact htakes.2),hcount]
    rfl
  · rw [if_neg fun hand => htakes ⟨hand.1,hpos.mp hand.2⟩,if_neg htakes]
    exact ⟨0,rfl,rfl⟩

/-- The count after a write is that of the counter; a write that is rejected has none. -/
theorem countAfterWrite (src : FDStateSource) (id : Int32) :
    ( eventFDCountAfterIO src .write (eventFDStateTarget (c.snapshot id)) (c.snapshot id).count=
        none ∧ c.Rejects (.write (eventFDWriteValue src.payloadSections))) ∨
    ∃ next, eventFDCountAfterIO src .write (eventFDStateTarget (c.snapshot id))
        (c.snapshot id).count=some next ∧
      next.toNat=(c.step (.write (eventFDWriteValue src.payloadSections))).value := by
  have hcount := c.count_snapshot id
  have hbounded := c.bounded
  have hmax : maxEventFDCount.toNat=maxCount := rfl
  unfold eventFDCountAfterIO
  rw [if_neg (by decide)]
  cases hvalue : eventFDWriteValue src.payloadSections with
  | none => exact Or.inl ⟨rfl,trivial⟩
  | some value =>
    have hroom : (maxEventFDCount-(c.snapshot id).count).toNat=maxCount-c.value := by
      rw [UInt64.toNat_sub_of_le _ _ (by rw [UInt64.le_iff_toNat_le,hcount,hmax]; exact hbounded),
        hcount,hmax]
    have hexceeds : maxEventFDCount-(c.snapshot id).count < value ↔
        maxCount < c.value+value.toNat := by
      rw [UInt64.lt_iff_toNat_lt,hroom]
      omega
    rw [Option.bind_some]
    unfold step
    dsimp only
    by_cases hlarge : maxCount < c.value+value.toNat
    · rw [if_pos (hexceeds.mpr hlarge)]
      exact Or.inl ⟨rfl,hlarge⟩
    · rw [if_neg fun hless => hlarge (hexceeds.mp hless),dif_pos (Nat.not_lt.mp hlarge)]
      refine Or.inr ⟨_,rfl,?_⟩
      have hword : c.value+value.toNat < 2^64 := by
        unfold maxCount at hlarge
        omega
      rw [UInt64.toNat_add,hcount]
      exact Nat.mod_eq_of_lt hword

/-- Text of a counter with another count. -/
theorem target_of_count {c' : Counter} {id : Int32} {next : UInt64} (hvalue : next.toNat=c'.value)
    (hsemaphore : c'.semaphore=c.semaphore) :
    countMark ++ formatEventFDStateCount next ++ detailsText (c.snapshot id)=
      eventFDStateTarget (c'.snapshot id) := by
  have hnext : next=(c'.snapshot id).count :=
    UInt64.toNat_inj.mp (hvalue.trans (c'.count_snapshot id).symm)
  have hdetails : detailsText (c.snapshot id)=detailsText (c'.snapshot id) := by
    unfold detailsText snapshot
    rw [hsemaphore]
  rw [eventFDStateTarget_eq,hnext,hdetails]

end Counter

end Counters

section Events

variable {D M : Type} [DecidableEq D] [DecidableEq M]

/-- Exit of a syscall that creates a counter, with its snapshot. -/
structure CounterCreation (tables : SyscallTables) (pid : ℤ) (fd : Int32) where
  /-- The event. -/
  update : FDStateUpdate
  /-- Orders of its loops. -/
  orders : LoopOrders
  /-- The counter. -/
  state : EventFDState
  /-- The record is a proper one. -/
  valid : update.source.view.valid=true
  /-- The syscall succeeded. -/
  ret : 0 ≤ update.source.view.ret
  /-- It is one of the two that create counters. -/
  named : update.name=.eventfd ∨ update.name=.eventfd2
  /-- Its name is that of its number. -/
  numbered : update.name=syscallName (tables.name update.source.view.sysID)
  /-- The process. -/
  targetPID : update.targetPID=pid
  /-- The descriptor. -/
  descriptor : fdRet update.source.view=fd
  /-- The snapshot. -/
  captured : eventFDStateFromSections update.source.payloadSections=some state
  /-- The kernel keeps counters in their bound. -/
  bounded : state.count.toNat ≤ maxCount

/-- Exit of a read or a write of eight bytes on the descriptor of an anonymous file. -/
structure CounterEvent (tables : SyscallTables) (tree : PathTree D M) (file : AnonymousFile tree)
    (pid : ℤ) (fd : Int32) where
  /-- The event. -/
  update : FDStateUpdate
  /-- Orders of its loops. -/
  orders : LoopOrders
  /-- The record is a proper one. -/
  valid : update.source.view.valid=true
  /-- Eight bytes were transferred. -/
  ret : update.source.view.ret=8
  /-- The syscall. -/
  named : update.name=.read ∨ update.name=.write
  /-- Its name is that of its number. -/
  numbered : update.name=syscallName (tables.name update.source.view.sysID)
  /-- The process. -/
  targetPID : update.targetPID=pid
  /-- The descriptor. -/
  descriptor : fdArg update.source.view.args[0]=fd
  /-- A path is captured only if there is one. -/
  paths : ∀ s∈update.source.payloadSections, s.kind=.fdPath → s.probeRet=0 →
    (readDentryPath tree fdPathDentryMax (some file.dentry) (some file.mnt) []).isSome=true

variable {tables : SyscallTables} {tree : PathTree D M} {file : AnonymousFile tree} {pid : ℤ}
  {fd : Int32}

/-- What a creation creates. -/
def CounterCreation.counter (e : CounterCreation tables pid fd) : Counter :=
  ⟨e.state.count.toNat,decide (e.state.semaphore=1),e.bounded⟩

/-- The transfer of an event. -/
def CounterEvent.io (e : CounterEvent tables tree file pid fd) : CounterIO :=
  if e.update.name=.read then .read
  else .write (eventFDWriteValue e.update.source.payloadSections)

/-- Store after the exit of a creation. -/
def CounterCreation.apply (e : CounterCreation tables pid fd) (st : FDStateStore) : FDStateStore :=
  exitUpdate tables st e.update e.orders

/-- Store after the exit of a transfer. -/
def CounterEvent.apply (st : FDStateStore) (e : CounterEvent tables tree file pid fd) :
    FDStateStore := exitUpdate tables st e.update e.orders

/-- Store after a creation and some transfers. -/
def counterRun (st : FDStateStore) (creation : CounterCreation tables pid fd)
    (events : List (CounterEvent tables tree file pid fd)) : FDStateStore :=
  events.foldl CounterEvent.apply (creation.apply st)

/-- The store tells the text of a counter for a descriptor. -/
structure Tells (st : FDStateStore) (pid : ℤ) (fd : Int32) (c : Counter) (id : Int32) : Prop where
  /-- No history was lost. -/
  tainted : st.tainted=false
  /-- The text. -/
  text : st.paths.lookup (slotKey pid (.fd fd))=some (eventFDStateTarget (c.snapshot id))

/-- Paths after the exit of a syscall that closes nothing. -/
theorem paths_exitUpdate {st : FDStateStore} {update : FDStateUpdate} {orders : LoopOrders}
    (htainted : st.tainted=false)
    (hnumbered : update.name=syscallName (tables.name update.source.view.sysID))
    (happlies : shouldApplyFDStateEvent tables update.source.view update.name
      update.source.payloadSections=true)
    (hclose : (syscallEventTraitsForName update.name).close=false)
    (hrange : update.name≠.closeRange) :
    (exitUpdate tables st update orders).paths=
      (pathWriters update).foldl (runWriter update.targetPID) st.paths ∧
    (exitUpdate tables st update orders).tainted=false := by
  have hrecorded : st.applyFDState tables update orders=st.recordFDState update := by
    unfold FDStateStore.applyFDState
    rw [htainted,happlies,if_neg (by simp),if_neg hrange]
  have hkept : shouldCleanupClosedFDEvent tables update.source.view update.name=false := by
    unfold shouldCleanupClosedFDEvent
    rw [syscallEventTraitsForView_eq hnumbered,hclose,Bool.and_false,Bool.false_and]
  have hoffsets : ∀ recorded : FDStateStore, (recorded.applyFDOffsets update.source.view update.name
      update.targetPID).paths=recorded.paths ∧ (recorded.applyFDOffsets update.source.view
        update.name update.targetPID).tainted=recorded.tainted := by
    intro recorded
    unfold FDStateStore.applyFDOffsets
    split_ifs <;> exact ⟨rfl,rfl⟩
  unfold exitUpdate FDStateStore.cleanupClosedFD
  dsimp only
  rw [if_pos hkept,hrecorded]
  split_ifs with hmoves
  · rw [(hoffsets _).1,(hoffsets _).2]
    exact ⟨rfl,htainted⟩
  · exact ⟨rfl,htainted⟩

/-- A snapshot has a proper identity and one of the two modes. -/
theorem decoded_snapshot {sections : List PayloadSection} {state : EventFDState}
    (h : eventFDStateFromSections sections=some state) :
    0 ≤ state.id ∧ (state.semaphore=0 ∨ state.semaphore=1) := by
  unfold eventFDStateFromSections at h
  rcases Option.bind_eq_some_iff.mp h with ⟨s,-,hdecoded⟩
  unfold decodeEventFDState at hdecoded
  split_ifs at hdecoded with hshort hbad
  rw [not_or] at hbad
  rw [← Option.some.inj hdecoded]
  refine ⟨Int32.not_lt.mp hbad.1,?_⟩
  have hmode := hbad.2
  rw [UInt32.lt_iff_toNat_lt] at hmode
  change ¬1 < (uint32At s.data 12).toNat at hmode
  change uint32At s.data 12=0 ∨ uint32At s.data 12=1
  rw [← UInt32.toNat_inj,← UInt32.toNat_inj]
  change (uint32At s.data 12).toNat=0 ∨ (uint32At s.data 12).toNat=1
  omega

/-- A creation has the snapshot of its counter. -/
theorem CounterCreation.snapshot_counter (e : CounterCreation tables pid fd) :
    e.counter.snapshot e.state.id=e.state := by
  have hmode := (decoded_snapshot e.captured).2
  have hvalue : (if decide (e.state.semaphore=1)=true then (1 : UInt32) else 0)=
      e.state.semaphore := by
    rcases hmode with hzero | hone
    · rw [hzero]
      rfl
    · rw [hone]
      rfl
  unfold CounterCreation.counter Counter.snapshot
  dsimp only
  rw [UInt64.ofNat_toNat,hvalue]

/-- A write of a descriptor's path is what the store tells of it. -/
theorem lookup_remember (m : GoMap String String) (pid : ℤ) (fd : Int32) (text : String) :
    (applyWrites (slotKey pid) m [remember fd text]).lookup (slotKey pid (.fd fd))=some text := by
  rw [applyWrites_cons,applyWrites_nil,lookup_apply]
  exact if_pos rfl

/-- After its creation the store tells a counter. -/
theorem CounterCreation.tells (e : CounterCreation tables pid fd) {st : FDStateStore}
    (htainted : st.tainted=false) : Tells (e.apply st) pid fd e.counter e.state.id := by
  have hsections : e.update.source.payloadSections≠[] := by
    intro hnil
    have hcaptured := e.captured
    rw [hnil] at hcaptured
    exact absurd hcaptured.symm (Option.some_ne_none _)
  have happlies : shouldApplyFDStateEvent tables e.update.source.view e.update.name
      e.update.source.payloadSections=true := if_pos hsections
  have hclose : (syscallEventTraitsForName e.update.name).close=false := by
    rcases e.named with hname | hname <;> rw [hname] <;> rfl
  have hrange : e.update.name≠.closeRange := by
    rcases e.named with hname | hname <;> rw [hname] <;> decide
  have hproper : ¬(e.update.source.view.valid=false ∨ e.update.source.view.ret < 0 ∨
      e.update.name≠.eventfd ∧ e.update.name≠.eventfd2) := by
    rw [e.valid,not_or,not_or,Int64.not_lt]
    exact ⟨Bool.noConfusion,e.ret,fun hand => e.named.elim hand.1 hand.2⟩
  have hmap : updateEventFDMapFromSource e.update=[remember fd (eventFDStateTarget e.state)] := by
    unfold updateEventFDMapFromSource
    rw [if_neg hproper,e.captured,e.descriptor]
  have hcount : ∀ r, updateEventFDCountFromSource e.update r=[] := by
    intro r
    apply if_pos
    rcases e.named with hname | hname <;> rw [hname] <;>
      exact Or.inr (Or.inr ⟨by decide,by decide⟩)
  have hpaths : (e.apply st).paths=_ ∧ (e.apply st).tainted=false :=
    paths_exitUpdate htainted e.numbered happlies hclose hrange
  constructor
  · exact hpaths.2
  · rw [hpaths.1,e.snapshot_counter,e.targetPID]
    have hwriters : pathWriters e.update=(pathWriters e.update).take 10 ++
        [fun _ => updateEventFDMapFromSource e.update,updateEventFDCountFromSource e.update] := rfl
    rw [hwriters,List.foldl_append,List.foldl_cons,List.foldl_cons,List.foldl_nil]
    unfold runWriter
    rw [hcount,applyWrites_nil,hmap]
    exact lookup_remember _ pid fd _

namespace CounterEvent

variable (e : CounterEvent tables tree file pid fd)

/-- The event of an anonymous file carries no path. -/
theorem overlay_empty : fdPathOverlayFromSections e.update.source.payloadSections={} := by
  have hskip : ∀ s∈e.update.source.payloadSections, ∀ overlay,
      overlaySection overlay s=overlay := by
    intro s hs overlay
    unfold overlaySection
    apply if_pos
    by_cases hkind : s.kind=.fdPath
    · refine Or.inr (Or.inr fun hprobe => ?_)
      have hpath := e.paths s hs hkind hprobe
      rw [readDentryPath_anonymous] at hpath
      exact Bool.noConfusion hpath
    · exact Or.inl hkind
  unfold fdPathOverlayFromSections
  revert hskip
  generalize e.update.source.payloadSections=sections
  intro hskip
  induction sections with
  | nil => rfl
  | cons s sections ih =>
    rw [List.foldl_cons,hskip s List.mem_cons_self]
    exact ih fun other hother => hskip other (List.mem_cons_of_mem s hother)

/-- In front of the count nothing is written. -/
theorem writers_nil : ∀ writer∈(pathWriters e.update).take 11, ∀ r, writer r=[] := by
  have hkind : isFDStateCreatorName e.update.name=false ∧
      isOpenedPathFDStateSyscall e.update.name=false ∧ namesPipeOrSocket e.update.name=false ∧
      isDuplicatedFDStateSyscall e.update.name=false ∧ isFcntlFDStateSyscall e.update.name=false ∧
      e.update.name≠.chdir ∧ e.update.name≠.fchdir ∧ e.update.name≠.eventfd ∧
      e.update.name≠.eventfd2 := by
    rcases e.named with hname | hname <;> rw [hname] <;> decide
  rcases hkind with ⟨hcreator,hopens,hpipe,hdup,hfcntl,hchdir,hfchdir,heventfd,heventfd2⟩
  intro writer hwriter r
  rcases createdWrites_nil hcreator hopens r with ⟨hcreated,hopened⟩
  rcases pipeAndSocketWrites_nil hpipe r with ⟨hpipes,hpair,hnetlink,hsocket⟩
  simp only [pathWriters,List.take_succ_cons,List.take_zero,List.mem_cons,List.not_mem_nil,
    or_false] at hwriter
  rcases hwriter with rfl | rfl | rfl | rfl | rfl | rfl | rfl | rfl | rfl | rfl | rfl
  · unfold overlayPathWrites
    rw [resolved_of_overlay_empty e.overlay_empty]
    exact mapWrites_empty _
  · unfold overlayCwdWrites
    rw [e.overlay_empty]
    exact if_neg fun hand => hand.1 rfl
  · exact hcreated
  · exact hopened
  · unfold updateDupFDMapFromSource duplicatedFDsFromView
    rw [hdup,hfcntl,Bool.false_and,Bool.or_false,if_neg Bool.false_ne_true,ite_self]
  · exact hpipes
  · exact hpair
  · exact hnetlink
  · exact hsocket
  · unfold updateCwdFDMapFromView
    rw [if_neg hchdir,if_neg hfchdir,ite_self]
  · exact if_pos (Or.inr (Or.inr ⟨heventfd,heventfd2⟩))

/-- A transfer is recorded. -/
theorem applies : shouldApplyFDStateEvent tables e.update.source.view e.update.name
    e.update.source.payloadSections=true := by
  have htraits : (syscallEventTraitsForName e.update.name).stateIo=true := by
    rcases e.named with hname | hname <;> rw [hname] <;> rfl
  unfold shouldApplyFDStateEvent
  by_cases hsections : e.update.source.payloadSections≠[]
  · exact if_pos hsections
  · rw [if_neg hsections,e.valid,syscallEventTraitsForView_eq e.numbered,htraits,e.ret,
      if_neg Bool.noConfusion,if_pos rfl]
    rfl

/-- Paths after a transfer: only the count is written. -/
theorem paths_apply {st : FDStateStore} (htainted : st.tainted=false) :
    (e.apply st).paths=runWriter pid st.paths (updateEventFDCountFromSource e.update) ∧
      (e.apply st).tainted=false := by
  have hclose : (syscallEventTraitsForName e.update.name).close=false := by
    rcases e.named with hname | hname <;> rw [hname] <;> rfl
  have hrange : e.update.name≠.closeRange := by
    rcases e.named with hname | hname <;> rw [hname] <;> decide
  have hpaths : (e.apply st).paths=_ ∧ (e.apply st).tainted=false :=
    paths_exitUpdate htainted e.numbered e.applies hclose hrange
  have hwriters : pathWriters e.update=(pathWriters e.update).take 11 ++
      [updateEventFDCountFromSource e.update] := rfl
  rw [hwriters,List.foldl_append,foldl_runWriter_of_nil e.writers_nil,e.targetPID] at hpaths
  exact hpaths

variable {c : Counter} {id : Int32}

/-- What a transfer does to the text of a counter: the next count is put in its place. -/
theorem countWrites {read : Reader String}
    (htext : read (.fd fd)=some (eventFDStateTarget (c.snapshot id))) :
    updateEventFDCountFromSource e.update read=
      match eventFDCountAfterIO e.update.source e.update.name (eventFDStateTarget (c.snapshot id))
          (c.snapshot id).count with
      | none => []
      | some next => [remember fd
        (countMark ++ formatEventFDStateCount next ++ detailsText (c.snapshot id))] := by
  have hproper : ¬(e.update.source.view.valid=false ∨ e.update.source.view.ret≠8 ∨
      e.update.name≠.read ∧ e.update.name≠.write) := by
    rw [e.valid,e.ret,not_or,not_or]
    exact ⟨Bool.noConfusion,not_not.mpr rfl,fun hand => e.named.elim hand.1 hand.2⟩
  unfold updateEventFDCountFromSource
  rw [if_neg hproper,e.descriptor,htext]
  dsimp only
  rewrite [eventFDCountFromTarget_target]
  rfl

/-- A transfer keeps the text that of the counter. -/
theorem tells_apply {st : FDStateStore} (h : Tells st pid fd c id) :
    Tells (e.apply st) pid fd (c.step e.io) id := by
  have hpaths := e.paths_apply h.tainted
  have hwrites : updateEventFDCountFromSource e.update
      (fun slot => st.paths.lookup (slotKey pid slot))=_ := e.countWrites h.text
  refine ⟨hpaths.2,?_⟩
  rw [hpaths.1]
  unfold runWriter
  rw [hwrites]
  have hwritten : ∀ next, next.toNat=(c.step e.io).value →
      countMark ++ formatEventFDStateCount next ++ detailsText (c.snapshot id)=
        eventFDStateTarget ((c.step e.io).snapshot id) := fun next hnext =>
    Counter.target_of_count hnext (c.semaphore_step e.io)
  unfold io at hwritten ⊢
  rcases e.named with hname | hname
  · rcases Counter.countAfterRead e.update.source id with ⟨next,hnext,hvalue⟩
    rw [hname,if_pos rfl] at hwritten ⊢
    rw [hnext]
    dsimp only
    rw [hwritten next hvalue]
    exact lookup_remember _ pid fd _
  · rw [hname,if_neg (by decide)] at hwritten ⊢
    rcases Counter.countAfterWrite e.update.source id with
      ⟨hnone,hrejects⟩ | ⟨next,hnext,hvalue⟩
    · rw [hnone,Counter.step_of_rejects c hrejects]
      exact h.text
    · rw [hnext]
      dsimp only
      rw [hwritten next hvalue]
      exact lookup_remember _ pid fd _

end CounterEvent

/-- Whatever is transferred, the text stays that of the counter. -/
theorem tells_run {st : FDStateStore} {c : Counter} {id : Int32} (h : Tells st pid fd c id)
    (events : List (CounterEvent tables tree file pid fd)) :
    Tells (events.foldl CounterEvent.apply st) pid fd (c.run (events.map CounterEvent.io)) id := by
  induction events generalizing st c with
  | nil => exact h
  | cons e events ih => exact ih (e.tells_apply h)

/-- What a text says about a counter, to the store and to the decoder of targets. -/
structure Denotes (text : String) (c : Counter) (id : Int32) : Prop where
  /-- The store finds the value. -/
  counted : ∃ before after,
    eventFDCountFromTarget text=some (before,UInt64.ofNat c.value,after)
  /-- The store finds how reads are counted. -/
  semaphore : contains text "eventfd-semaphore=1"=c.semaphore
  /-- The decoder shows all three. -/
  shown : decodeEventFDTarget text=some (eventFDPath,
    "\x7beventfd-count=" ++ formatEventFDStateCount (UInt64.ofNat c.value) ++ ", eventfd-id=" ++
      toString id.toInt ++ ", eventfd-semaphore=" ++ (if c.semaphore then "1" else "0") ++ "\x7d")

/-- The text of a counter says what it is made from. -/
theorem denotes_target (c : Counter) {id : Int32} (hid : 0 ≤ id) :
    Denotes (eventFDStateTarget (c.snapshot id)) c id where
  counted := ⟨_,_,eventFDCountFromTarget_target (c.snapshot id)⟩
  semaphore := by
    rw [contains_semaphore _ (c.semaphore_snapshot id),c.isSemaphore_snapshot]
  shown := by
    have hmode : toString (c.snapshot id).semaphore.toNat=if c.semaphore then "1" else "0" := by
      unfold Counter.snapshot
      cases c.semaphore with
      | false =>
        change toString 0="0"
        decide
      | true =>
        change toString 1="1"
        decide
    rw [decodeEventFDTarget_target _ hid (c.semaphore_snapshot id),hmode]
    rfl

/-- Only the path of an event counter is ever updated. -/
theorem target_of_countWrite {update : FDStateUpdate} {read : Reader String}
    {w : Write FDSlot String} (h : w∈updateEventFDCountFromSource update read) :
    w.address=.fd (fdArg update.source.view.args[0]) ∧
      ∃ target, read w.address=some target ∧ hasPrefix target "anon_inode:[eventfd],"=true := by
  unfold updateEventFDCountFromSource at h
  split_ifs at h with hskip
  · exact absurd h List.not_mem_nil
  · cases htarget : read (.fd (fdArg update.source.view.args[0])) with
    | none =>
      rw [htarget] at h
      exact absurd h List.not_mem_nil
    | some target =>
      rw [htarget] at h
      dsimp only at h
      by_cases hstart : hasPrefix target "anon_inode:[eventfd],"=true
      · split at h
        · exact absurd h List.not_mem_nil
        · split at h
          · exact absurd h List.not_mem_nil
          · rw [List.mem_singleton.mp h]
            exact ⟨rfl,target,htarget,hstart⟩
      · have hnone : eventFDCountFromTarget target=none := by
          unfold eventFDCountFromTarget
          rw [Bool.not_eq_true] at hstart
          rw [hstart]
          exact if_pos rfl
        rw [hnone] at h
        exact absurd h List.not_mem_nil

/-- The path that the store keeps for an event counter is the text of the counter after any
transfers, and no write that is rejected changes it; no other path is updated. -/
theorem eventfd_counter_simulated {st : FDStateStore} (htainted : st.tainted=false)
    (creation : CounterCreation tables pid fd)
    (events : List (CounterEvent tables tree file pid fd)) :
    (∃ text, (counterRun st creation events).path pid fd=some text ∧
      Denotes text (creation.counter.run (events.map CounterEvent.io)) creation.state.id ∧
      (creation.counter.run (events.map CounterEvent.io)).semaphore=creation.counter.semaphore ∧
      ∀ e : CounterEvent tables tree file pid fd,
        (creation.counter.run (events.map CounterEvent.io)).Rejects e.io →
          (counterRun st creation (events ++ [e])).path pid fd=some text) ∧
    ∀ (update : FDStateUpdate) (read : Reader String),
      ∀ w∈updateEventFDCountFromSource update read,
        w.address=.fd (fdArg update.source.view.args[0]) ∧
          ∃ target, read w.address=some target ∧
            hasPrefix target "anon_inode:[eventfd],"=true := by
  have hid := (decoded_snapshot creation.captured).1
  have htold : ∀ events : List (CounterEvent tables tree file pid fd),
      Tells (counterRun st creation events) pid fd
        (creation.counter.run (events.map CounterEvent.io)) creation.state.id :=
    fun events => tells_run (creation.tells htainted) events
  have hpath : ∀ {st : FDStateStore} {c : Counter} {id : Int32}, Tells st pid fd c id →
      st.path pid fd=some (eventFDStateTarget (c.snapshot id)) := by
    intro st c id h
    unfold FDStateStore.path
    rw [h.tainted,if_neg Bool.false_ne_true]
    exact h.text
  refine ⟨⟨_,hpath (htold events),denotes_target _ hid,Counter.semaphore_run _ _,?_⟩,
    fun update read w hw => target_of_countWrite hw⟩
  intro e hrejects
  have hnext := hpath (htold (events ++ [e]))
  rw [List.map_append,List.map_singleton,Counter.run_append,
    Counter.step_of_rejects _ hrejects] at hnext
  exact hnext

end Events

section Samples

/-- Syscall table of the samples. -/
def counterTables : SyscallTables :=
  ⟨fun id => if id=290 then "eventfd2" else "write",fun _ => false,fun _ => false⟩

/-- An entry next to the root of its mount. -/
def counterTree : PathTree Bool Unit :=
  ⟨some,fun _ => some false,fun _ => none,fun _ => none⟩

/-- The file of a counter. -/
def counterFile : AnonymousFile counterTree := ⟨true,(),rfl,by decide⟩

/-- Process 101 creates a counter with value five as descriptor seven. -/
def createdCounter : CounterCreation counterTables 101 7 where
  update := {
    source := {
      view := ({eventType := .exit, pid := 101, tid := 101, sysID := 290, ret := 7} :
        TraceEventEnvelope).syscallView
      payloadSections := [⟨.eventFDState,.output,payloadEventFDStateArgIndex,0,16,16,0,
        [5,0,0,0,0,0,0,0,17,0,0,0,1,0,0,0]⟩]}
    name := .eventfd2
    targetPID := 101}
  orders := {}
  state := ⟨5,17,1⟩
  valid := rfl
  ret := by decide
  named := Or.inr rfl
  numbered := by decide
  targetPID := rfl
  descriptor := by decide
  captured := rfl
  bounded := by decide

/-- Process 101 writes three to descriptor seven. -/
def addedThree : CounterEvent counterTables counterTree counterFile 101 7 where
  update := {
    source := {
      view := ({eventType := .exit, pid := 101, tid := 101, sysID := 1, ret := 8,
                args := #v[7,0,8,0,0,0]} : TraceEventEnvelope).syscallView
      payloadSections := [⟨.bytes,.input,1,0,8,8,0,[3,0,0,0,0,0,0,0]⟩]}
    name := .write
    targetPID := 101}
  orders := {}
  valid := rfl
  ret := rfl
  named := Or.inr rfl
  numbered := by decide
  targetPID := rfl
  descriptor := by decide
  paths s hs hkind hprobe := by
    rw [List.mem_singleton.mp hs] at hkind
    exact nomatch hkind

/-- After the write the path tells eight. -/
theorem eventfd_counter_eight :
    ∃ text, (counterRun {} createdCounter [addedThree]).path 101 7=some text ∧
      Denotes text (createdCounter.counter.run [.write (some 3)]) 17 := by
  have hwrite : [addedThree].map CounterEvent.io=[.write (some 3)] := rfl
  have hfresh : ({} : FDStateStore).tainted=false := rfl
  rcases (eventfd_counter_simulated hfresh createdCounter [addedThree]).1 with ⟨text,htext, hsays,-⟩
  rw [hwrite] at hsays
  exact ⟨text,htext, hsays⟩

end Samples

end StraceGo.EventCounters

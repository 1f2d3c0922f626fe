import Mathlib.Data.List.Basic
import Mathlib.Logic.Function.Basic

/-!
# Slices over growing arrays

A slice that alone uses its array shows the front of it; the cells behind keep what was written
there and can come back into view. Appending writes in place while the array has room, and moves
to a new array whose size the runtime chooses otherwise. Filtering into the same array is right
because the writing position never passes the reading one.

Arrays of several owners form a heap. A window is a slice into one of them; refilling a window
writes into its array or into a new one, and leaves every other array alone.
-/

namespace StraceGo.GoSlices

/-- Sizes the runtime chooses when elements outgrow their array. -/
structure Growth where
  /-- New size from the old one and the number of elements needed. -/
  capacity : ℕ → ℕ → ℕ
  /-- The elements fit. -/
  enough : ∀ old need, need ≤ capacity old need

section Backed

variable {α β : Type}

/-- A slice over the front of an array. -/
structure Backed (α : Type) where
  /-- Elements of the slice. -/
  visible : List α := []
  /-- Elements of the array behind the slice. -/
  hidden : List α := []

namespace Backed

variable (s : Backed α)

/-- The whole array. -/
def cells : List α := s.visible ++ s.hidden

/-- Elements the array has room for. -/
def capacity : ℕ := s.cells.length

/-- No element, the same array. -/
def truncate : Backed α := ⟨[],s.cells⟩

/-- One more element, the next of the array. -/
def extend : Backed α := ⟨s.visible ++ s.hidden.take 1,s.hidden.drop 1⟩

/-- Overwrite an element. -/
def set (i : ℕ) (x : α) : Backed α := ⟨s.visible.set i x,s.hidden⟩

/-- Overwrite every element. -/
def mapVisible (f : α → α) : Backed α := ⟨s.visible.map f,s.hidden⟩

/-- Elements added behind the slice. -/
def append [Inhabited α] (grow : Growth) (xs : List α) : Backed α :=
  if xs.length ≤ s.hidden.length then ⟨s.visible ++ xs,s.hidden.drop xs.length⟩
  else
    let need := s.visible.length+xs.length
    ⟨s.visible ++ xs,List.replicate (grow.capacity s.capacity need-need) default⟩

/-- One round of a filter: the array it reads, and the slice it writes from the front of it. -/
def compactStep [Inhabited α] (grow : Growth) (keep : α → Bool) (state : List α×Backed α)
    (i : ℕ) : List α×Backed α :=
  let x := state.1.getD i default
  if keep x then
    let kept := state.2.append grow [x]
    (if state.2.hidden=[] then state.1 else kept.cells,kept)
  else state

/-- The elements kept by a filter, written into the array they are read from. -/
def compact [Inhabited α] (grow : Growth) (keep : α → Bool) : Backed α :=
  ((List.range s.visible.length).foldl (compactStep grow keep) (s.cells,s.truncate)).2

variable {s}

@[simp]
theorem visible_append [Inhabited α] (grow : Growth) (xs : List α) :
    (s.append grow xs).visible=s.visible ++ xs := by
  unfold append
  split_ifs <;> rfl

/-- What lies behind an appended slice was there before, or is blank. -/
theorem mem_hidden_append [Inhabited α] {grow : Growth} {xs : List α} {x : α}
    (h : x∈(s.append grow xs).hidden) : x∈s.hidden ∨ x=default := by
  unfold append at h
  split_ifs at h
  · exact Or.inl (List.mem_of_mem_drop h)
  · exact Or.inr (List.eq_of_mem_replicate h)

/-- Appending the elements of a loop one by one, some of them skipped. -/
theorem visible_foldl_append [Inhabited α] (grow : Growth) (skip : α → Bool) (xs : List α) :
    (xs.foldl (fun kept x => if skip x then kept else kept.append grow [x]) s).visible=
      s.visible ++ xs.filter fun x => !skip x := by
  induction xs generalizing s with
  | nil => rw [List.foldl_nil,List.filter_nil,List.append_nil]
  | cons x xs ih =>
    rw [List.foldl_cons,ih]
    cases hskip : skip x with
    | true =>
      rw [if_pos rfl,List.filter_cons_of_neg]
      rw [hskip]
      exact Bool.false_ne_true
    | false =>
      rw [if_neg Bool.false_ne_true,visible_append,List.filter_cons_of_pos,List.append_assoc,
        List.singleton_append]
      rw [hskip]
      rfl

/-- An element written at a position does not show behind it. -/
theorem drop_written (front back : List α) (x y : α) {i : ℕ} (h : front.length ≤ i) :
    (front ++ x::back).drop (i+1)=(front ++ y::back).drop (i+1) := by
  have hrest : i+1-front.length=i-front.length+1 := by omega
  rw [List.drop_append,List.drop_append,hrest,List.drop_succ_cons,List.drop_succ_cons]

/-- What holds while a filter writes into the array it reads. -/
structure Compacting [Inhabited α] (s : Backed α) (keep : α → Bool) (i : ℕ)
    (state : List α×Backed α) : Prop where
  /-- The written slice lies in the array that is read. -/
  shared : state.1=state.2.cells
  /-- The kept elements of what was read are written. -/
  kept : state.2.visible=(s.visible.take i).filter keep
  /-- What is still to be read is as it was. -/
  unread : state.1.drop i=s.cells.drop i
  /-- The array has its size. -/
  size : state.1.length=s.cells.length

theorem Compacting.start [Inhabited α] (keep : α → Bool) :
    Compacting s keep 0 (s.cells,s.truncate) where
  shared := rfl
  kept := rfl
  unread := rfl
  size := rfl

/-- A round keeps the written slice behind the reading position. -/
theorem Compacting.step [Inhabited α] {grow : Growth} {keep : α → Bool} {i : ℕ}
    {state : List α×Backed α} (h : Compacting s keep i state) (hi : i < s.visible.length) :
    Compacting s keep (i+1) (compactStep grow keep state i) := by
  obtain ⟨array,kept,behind⟩ := state
  obtain ⟨hshared,hkept,hunread,hsize⟩ := h
  dsimp only [cells] at hshared hkept hunread hsize
  have hget : array.getD i default=s.visible[i] := by
    have hfirst := congrArg (·[0]?) hunread
    simp only [List.getElem?_drop,Nat.add_zero] at hfirst
    rw [List.getD_eq_getElem?_getD,hfirst,List.getElem?_append_left hi,
      List.getElem?_eq_getElem hi,Option.getD_some]
  have htake : s.visible.take (i+1)=s.visible.take i ++ [s.visible[i]] :=
    List.take_succ_eq_append_getElem hi
  have hnext : array.drop (i+1)=(s.visible ++ s.hidden).drop (i+1) := by
    rw [←List.drop_drop,hunread,List.drop_drop]
  have hshort : kept.length ≤ i := by
    rw [hkept]
    exact Nat.le_trans (List.length_filter_le _ _) (List.length_take_le i _)
  unfold compactStep
  dsimp only
  rw [hget]
  by_cases hkeep : keep s.visible[i]=true
  · cases behind with
    | nil =>
      rw [hshared,List.append_nil,List.length_append] at hsize
      omega
    | cons old behind =>
      have happend : Backed.append ⟨kept,old::behind⟩ grow [s.visible[i]]=
          ⟨kept ++ [s.visible[i]],behind⟩ := if_pos (Nat.succ_le_succ (Nat.zero_le _))
      rw [if_pos hkeep,if_neg (List.cons_ne_nil old behind),happend]
      constructor
      · rfl
      · rw [htake,List.filter_append,List.filter_singleton,hkeep,←hkept]
        rfl
      · dsimp only [cells]
        rw [←hnext,hshared,List.append_assoc,List.singleton_append]
        exact drop_written kept behind _ old hshort
      · dsimp only [cells]
        rw [←hsize,hshared,List.append_assoc,List.singleton_append,List.length_append,
          List.length_append,List.length_cons,List.length_cons]
  · rw [if_neg hkeep]
    refine ⟨hshared,?_,hnext,hsize⟩
    rw [htake,List.filter_append,List.filter_cons_of_neg hkeep,List.filter_nil,List.append_nil]
    exact hkept

/-- A filter into the array it reads keeps what a filter keeps. -/
theorem visible_compact [Inhabited α] (grow : Growth) (keep : α → Bool) :
    (s.compact grow keep).visible=s.visible.filter keep := by
  have hrounds : ∀ n ≤ s.visible.length, Compacting s keep n
      ((List.range n).foldl (compactStep grow keep) (s.cells,s.truncate)) := by
    intro n hn
    induction n with
    | zero => exact Compacting.start keep
    | succ n ih =>
      rw [List.range_succ,List.foldl_append]
      exact (ih (by omega)).step (by omega)
  have hkept := (hrounds _ (Nat.le_refl _)).kept
  rwa [List.take_length] at hkept

end Backed

end Backed

section Heap

variable {β : Type}

/-- An array by its owner. -/
inductive Buffer where
  | owned (n : ℕ)
  | caller (n : ℕ)
  deriving DecidableEq

/-- The arrays of a program: those it allocated, and those its caller owns and may rewrite. -/
structure Heap (β : Type) where
  /-- Allocated arrays. -/
  owned : List (List β) := []
  /-- Arrays of the caller. -/
  caller : ℕ → List β

/-- A slice into an array. -/
structure Window where
  /-- The array. -/
  buffer : Buffer
  /-- Position of its first element. -/
  start : ℕ
  /-- Number of its elements. -/
  length : ℕ
  /-- Elements it has room for. -/
  capacity : ℕ

namespace Window

/-- No element, the same room. -/
def truncate (w : Window) : Window := {w with length := 0}

end Window

namespace Heap

variable (heap : Heap β)

/-- Contents of an array. -/
def read : Buffer → List β
  | .owned n => heap.owned.getD n []
  | .caller n => heap.caller n

/-- The arrays exist. -/
def Allocated : Buffer → Prop
  | .owned n => n < heap.owned.length
  | .caller _ => True

/-- Elements a slice shows, none through a nil slice. -/
def elements (window : Option Window) : List β :=
  match window with
  | none => []
  | some w => ((heap.read w.buffer).drop w.start).take w.length

/-- Write elements into an array. -/
def write (buffer : Buffer) (start : ℕ) (xs : List β) : Heap β :=
  let written := (heap.read buffer).take start ++ xs ++ (heap.read buffer).drop (start+xs.length)
  match buffer with
  | .owned n => {heap with owned := heap.owned.set n written}
  | .caller n => {heap with caller := Function.update heap.caller n written}

/-- A new array. -/
def allocate (xs : List β) : Heap β×Buffer :=
  ({heap with owned := heap.owned ++ [xs]},.owned heap.owned.length)

/-- Elements put in the place of a slice's: into its array if they fit, otherwise into a new one. -/
def refill [Inhabited β] (grow : Growth) (window : Option Window) (xs : List β) :
    Heap β×Option Window :=
  let room := window.elim 0 (·.capacity)
  if xs.length ≤ room then
    match window with
    | none => (heap,none)
    | some w => (heap.write w.buffer w.start xs,some {w with length := xs.length})
  else
    let capacity := grow.capacity room xs.length
    let (heap,buffer) := heap.allocate (xs ++ List.replicate (capacity-xs.length) default)
    (heap,some ⟨buffer,0,xs.length,capacity⟩)

variable {heap} {window : Option Window} {grow : Growth} {xs : List β} {buffer other : Buffer}

theorem read_write_ne (hne : other≠buffer) (start : ℕ) :
    (heap.write buffer start xs).read other=heap.read other := by
  cases buffer with
  | owned n =>
    cases other with
    | owned m =>
      have hdiff : n≠m := fun heq => hne (congrArg Buffer.owned heq.symm)
      simp only [write,read,List.getD_eq_getElem?_getD,List.getElem?_set_ne hdiff]
    | caller m => rfl
  | caller n =>
    cases other with
    | owned m => rfl
    | caller m => exact Function.update_of_ne (fun heq => hne (congrArg Buffer.caller heq)) _ _

theorem read_write_self (hallocated : heap.Allocated buffer) (start : ℕ) :
    (heap.write buffer start xs).read buffer=
      (heap.read buffer).take start ++ xs ++ (heap.read buffer).drop (start+xs.length) := by
  cases buffer with
  | owned n =>
    simp only [write,read,List.getD_eq_getElem?_getD]
    rw [List.getElem?_set_self hallocated,Option.getD_some]
  | caller n => exact Function.update_self ..

theorem read_allocate_ne (hallocated : heap.Allocated other) :
    (heap.allocate xs).1.read other=heap.read other := by
  cases other with
  | owned n =>
    simp only [allocate,read,List.getD_eq_getElem?_getD]
    rw [List.getElem?_append_left hallocated]
  | caller n => rfl

theorem read_allocate_self : (heap.allocate xs).1.read (heap.allocate xs).2=xs := by
  simp only [allocate,read,List.getD_eq_getElem?_getD]
  rw [List.getElem?_append_right (Nat.le_refl _),Nat.sub_self]
  rfl

theorem not_allocated_fresh : ¬heap.Allocated (.owned heap.owned.length) := Nat.lt_irrefl _

theorem elements_congr {other : Heap β}
    (h : ∀ w, window=some w → other.read w.buffer=heap.read w.buffer) :
    other.elements window=heap.elements window := by
  cases window with
  | none => rfl
  | some w =>
    unfold elements
    dsimp only
    rw [h w rfl]

/-- A truncated slice shows nothing. -/
theorem elements_truncate (window : Option Window) :
    heap.elements (window.map Window.truncate)=[] := by
  cases window with
  | none => rfl
  | some w => simp only [elements,Option.map_some,Window.truncate,List.take_zero]

/-- The slice lies within its array, which the program allocated. -/
structure Holds (heap : Heap β) (w : Window) : Prop where
  /-- The array was allocated. -/
  own : ∃ n < heap.owned.length, w.buffer=.owned n
  /-- The slice starts at the front of it. -/
  front : w.start=0
  /-- It has the room of the array. -/
  room : w.capacity=(heap.read w.buffer).length
  /-- Its elements fit. -/
  fits : w.length ≤ w.capacity

theorem Holds.allocated {w : Window} (h : heap.Holds w) : heap.Allocated w.buffer := by
  obtain ⟨n,hlt,heq⟩ := h.own
  rw [heq]
  exact hlt

theorem Holds.truncate {w : Window} (h : heap.Holds w) : heap.Holds w.truncate where
  own := h.own
  front := h.front
  room := h.room
  fits := Nat.zero_le _

/-- What refilling a slice does. -/
structure Refilled (heap : Heap β) (window : Option Window) (xs : List β) (after : Heap β)
    (w : Window) : Prop where
  /-- The new slice has an allocated array for itself. -/
  holds : after.Holds w
  /-- It shows the elements. -/
  shows : after.elements (some w)=xs
  /-- Its array is that of the old slice, or new. -/
  buffer : window.map (·.buffer)=some w.buffer ∨ ¬heap.Allocated w.buffer
  /-- Every other array keeps its contents. -/
  frame : ∀ other, heap.Allocated other → other≠w.buffer → after.read other=heap.read other
  /-- Arrays stay allocated. -/
  grows : heap.owned.length ≤ after.owned.length
  /-- The caller's arrays are not written. -/
  caller : after.caller=heap.caller

/-- Refilling a slice of an own array with some elements. -/
theorem refill_refilled [Inhabited β] (grow : Growth)
    (h : ∀ w, window=some w → heap.Holds w) (hxs : xs≠[]) :
    ∃ w, (heap.refill grow window xs).2=some w ∧
      Refilled heap window xs (heap.refill grow window xs).1 w := by
  unfold refill
  dsimp only
  split_ifs with hroom
  · cases window with
    | none => exact absurd (List.eq_nil_of_length_eq_zero (Nat.le_zero.mp hroom)) hxs
    | some w =>
      have hw := h w rfl
      obtain ⟨n,hlt,hbuffer⟩ := hw.own
      have hself : (heap.write w.buffer w.start xs).read w.buffer=
          xs ++ (heap.read w.buffer).drop xs.length := by
        rw [read_write_self hw.allocated,hw.front,List.take_zero,List.nil_append,Nat.zero_add]
      have hfits : xs.length ≤ w.capacity := hroom
      have howned : (heap.write w.buffer w.start xs).owned.length=heap.owned.length := by
        rw [hbuffer]
        exact List.length_set
      refine ⟨_,rfl,?_⟩
      constructor
      · constructor
        · exact ⟨n,by rwa [howned],hbuffer⟩
        · exact hw.front
        · dsimp only
          rw [hself,List.length_append,List.length_drop,←hw.room]
          omega
        · exact hfits
      · dsimp only [elements]
        rw [hself,hw.front,List.drop_zero,List.take_left]
      · exact Or.inl rfl
      · exact fun other _ hne => read_write_ne hne _
      · exact Nat.le_of_eq howned.symm
      · change (heap.write w.buffer w.start xs).caller=heap.caller
        rw [hbuffer]
        rfl
  · have hsize : xs.length ≤ grow.capacity (window.elim 0 (·.capacity)) xs.length := grow.enough ..
    refine ⟨_,rfl,?_⟩
    constructor
    · constructor
      · exact ⟨_,by rw [allocate,List.length_append]; exact Nat.lt_succ_self _,rfl⟩
      · rfl
      · dsimp only
        rw [read_allocate_self,List.length_append,List.length_replicate]
        omega
      · exact hsize
    · dsimp only [elements]
      rw [read_allocate_self,List.drop_zero,List.take_left]
    · exact Or.inr not_allocated_fresh
    · exact fun other hallocated _ => read_allocate_ne hallocated
    · rw [allocate,List.length_append]
      exact Nat.le_add_right _ _
    · rfl

end Heap

end Heap

end StraceGo.GoSlices

import StraceGo.FiniteMaps
import Mathlib.Data.Multiset.Range

/-!
# Pools of recycled objects and tables over them

A pool is a heap of cells with a stack of free ones. Cells are handed out and
taken back by position. The pool is balanced when the free cells and the held
ones together are all its cells, each once: then a held cell is not free, not
held twice, and unchanged by whatever happens to the others.

A table is a map from keys to cells of its own pool. Over a balanced table,
reads and writes behave as on a map of values.
-/

namespace StraceGo.ObjectPool

open FiniteMaps

variable {α K M : Type}

/-- Position of a cell. -/
abbrev Ref : Type := ℕ

/-- Cells and the stack of free ones. -/
structure Pool (α : Type) where
  /-- All cells ever allocated. -/
  cells : List α := []
  /-- Released cells, the latest first. -/
  free : List Ref := []

namespace Pool

/-- Content of a cell. -/
def read [Inhabited α] (p : Pool α) (ref : Ref) : α := (p.cells[ref]?).getD default

/-- Overwrite a cell. -/
def write (p : Pool α) (ref : Ref) (v : α) : Pool α := {p with cells := p.cells.set ref v}

/-- Take the latest released cell, or allocate one. -/
def acquire [Inhabited α] (p : Pool α) : Pool α×Ref :=
  match p.free with
  | [] => ({p with cells := p.cells ++ [default]},p.cells.length)
  | ref::rest => ({p with free := rest},ref)

/-- Overwrite a cell and put it on the free stack. -/
def release (p : Pool α) (ref : Ref) (v : α) : Pool α :=
  {p.write ref v with free := ref::p.free}

/-- Every cell is either free or held, once. -/
def Balanced (p : Pool α) (held : Multiset Ref) : Prop :=
  (p.free : Multiset Ref)+held=Multiset.range p.cells.length

variable {p : Pool α} {held rest : Multiset Ref} {ref other : Ref} {v : α}

theorem balanced_empty : Balanced ({} : Pool α) 0 := rfl

theorem Balanced.lt (h : p.Balanced held) (hmem : ref∈held) : ref < p.cells.length := by
  have hall : ref∈(p.free : Multiset Ref)+held := Multiset.mem_add.mpr (.inr hmem)
  rw [h] at hall
  exact Multiset.mem_range.mp hall

theorem Balanced.nodup (h : p.Balanced held) : held.Nodup := by
  have hall : ((p.free : Multiset Ref)+held).Nodup := by
    rw [h]
    exact Multiset.nodup_range _
  exact (Multiset.nodup_add.mp hall).2.1

/-- A held cell is not free. -/
theorem Balanced.notMem_free (h : p.Balanced held) (hmem : ref∈held) : ref∉p.free := by
  have hall : ((p.free : Multiset Ref)+held).Nodup := by
    rw [h]
    exact Multiset.nodup_range _
  intro hfree
  exact Multiset.disjoint_left.mp (Multiset.nodup_add.mp hall).2.2 (Multiset.mem_coe.mpr hfree) hmem

theorem write_balanced (h : p.Balanced held) : (p.write ref v).Balanced held := by
  unfold Balanced write at *
  dsimp only
  rw [List.length_set]
  exact h

/-- Releasing a held cell frees it. -/
theorem release_balanced (h : p.Balanced (ref::ₘrest)) : (p.release ref v).Balanced rest := by
  unfold Balanced release write at *
  dsimp only
  rw [List.length_set,←h,←Multiset.cons_coe,Multiset.cons_add,Multiset.add_cons]

section Reads

variable [Inhabited α]

/-- Every free cell satisfies a predicate. -/
def Clean (P : α → Prop) (p : Pool α) : Prop := ∀ ref∈p.free, P (p.read ref)

theorem read_write_self (h : ref < p.cells.length) : (p.write ref v).read ref=v := by
  unfold read write
  dsimp only
  rw [List.getElem?_set_self h,Option.getD_some]

theorem read_write_ne (h : other≠ref) : (p.write ref v).read other=p.read other := by
  unfold read write
  dsimp only
  rw [List.getElem?_set_ne h.symm]

theorem read_release_ne (h : other≠ref) : (p.release ref v).read other=p.read other :=
  read_write_ne h

/-- An acquired cell becomes held. -/
theorem acquire_balanced (h : p.Balanced held) :
    p.acquire.1.Balanced (p.acquire.2::ₘheld) := by
  unfold Balanced acquire at *
  cases hfree : p.free with
  | nil =>
    rw [hfree] at h
    dsimp only
    rw [List.length_append,List.length_singleton,Multiset.range_succ,Multiset.add_cons,h]
  | cons ref rest =>
    rw [hfree,←Multiset.cons_coe,Multiset.cons_add] at h
    dsimp only
    rw [Multiset.add_cons,h]

/-- Acquiring changes no allocated cell. -/
theorem read_acquire (h : ref < p.cells.length) : p.acquire.1.read ref=p.read ref := by
  unfold acquire
  cases p.free with
  | nil =>
    unfold read
    dsimp only
    rw [List.getElem?_append_left h]
  | cons top rest => rfl

/-- The acquired cell holds what every free cell and every new cell holds. -/
theorem acquired_clean {P : α → Prop} (hdefault : P default) (h : p.Clean P) :
    P (p.acquire.1.read p.acquire.2) := by
  unfold acquire
  cases htop : p.free with
  | nil =>
    unfold read
    dsimp only
    rw [List.getElem?_concat_length,Option.getD_some]
    exact hdefault
  | cons top rest =>
    apply h
    rw [htop]
    exact List.mem_cons_self

theorem acquire_clean {P : α → Prop} (h : p.Clean P) : p.acquire.1.Clean P := by
  unfold acquire
  cases htop : p.free with
  | nil =>
    intro ref hmem
    exact absurd hmem List.not_mem_nil
  | cons top rest =>
    intro ref hmem
    apply h
    rw [htop]
    exact List.mem_cons_of_mem _ hmem

theorem write_clean {P : α → Prop} (h : p.Clean P) (hheld : ref∉p.free) :
    (p.write ref v).Clean P := by
  intro other hmem
  have hne : other≠ref := by
    rintro rfl
    exact hheld hmem
  rw [read_write_ne hne]
  exact h other hmem

theorem release_clean {P : α → Prop} (h : p.Clean P) (hv : P v) (hlt : ref < p.cells.length) :
    (p.release ref v).Clean P := by
  intro other hmem
  by_cases heq : other=ref
  · rw [heq,release,read]
    change P ((p.write ref v).read ref)
    rw [read_write_self hlt]
    exact hv
  · rw [read_release_ne heq]
    apply h
    exact (List.mem_cons.mp hmem).resolve_left heq

/-- An acquired cell is none of the held ones. -/
theorem acquire_notMem (h : p.Balanced held) : p.acquire.2∉held :=
  (Multiset.nodup_cons.mp (acquire_balanced h).nodup).1

/-- A pool is reached by operations that neither put a cell back nor write it. -/
inductive Spares (ref : Ref) (p : Pool α) : Pool α → Prop where
  | refl : Spares ref p p
  | acquire {q : Pool α} (h : Spares ref p q) : Spares ref p q.acquire.1
  | write {q : Pool α} {other : Ref} (h : Spares ref p q) (hne : other≠ref) (v : α) :
    Spares ref p (q.write other v)
  | release {q : Pool α} {other : Ref} (h : Spares ref p q) (hne : other≠ref) (v : α) :
    Spares ref p (q.release other v)

theorem Spares.trans {q r : Pool α} (h : Spares ref p q) (h' : Spares ref q r) :
    Spares ref p r := by
  induction h' with
  | refl => exact h
  | acquire _ ih => exact ih.acquire
  | write _ hne v ih => exact ih.write hne v
  | release _ hne v ih => exact ih.release hne v

/-- A spared cell keeps its content and stays off the free stack. -/
theorem Spares.kept {q : Pool α} (h : Spares ref p q) (hlt : ref < p.cells.length)
    (hfree : ref∉p.free) : q.read ref=p.read ref ∧ ref < q.cells.length ∧ ref∉q.free := by
  induction h with
  | refl => exact ⟨rfl,hlt,hfree⟩
  | @acquire q _ ih =>
    obtain ⟨hread,hlt,hfree⟩ := ih
    refine ⟨(read_acquire hlt).trans hread,?_,?_⟩
    · unfold Pool.acquire
      cases q.free with
      | nil =>
        rw [List.length_append]
        exact Nat.lt_add_right _ hlt
      | cons top rest => exact hlt
    · unfold Pool.acquire
      cases htop : q.free with
      | nil =>
        rw [htop] at hfree
        exact hfree
      | cons top rest =>
        rw [htop] at hfree
        exact fun hmem => hfree (List.mem_cons_of_mem _ hmem)
  | write _ hne v ih =>
    obtain ⟨hread,hlt,hfree⟩ := ih
    refine ⟨(read_write_ne hne.symm).trans hread,?_,hfree⟩
    unfold Pool.write
    rw [List.length_set]
    exact hlt
  | release _ hne v ih =>
    obtain ⟨hread,hlt,hfree⟩ := ih
    refine ⟨(read_release_ne hne.symm).trans hread,?_,?_⟩
    · unfold Pool.release Pool.write
      rw [List.length_set]
      exact hlt
    · exact fun hmem => (List.mem_cons.mp hmem).elim hne.symm hfree

end Reads

end Pool

/-- A map from keys to cells of its own pool. -/
structure Table (K α : Type) where
  /-- Cell of every present key. -/
  index : GoMap K Ref := ∅
  /-- The cells. -/
  pool : Pool α := {}

namespace Table

variable [DecidableEq K]

/-- Content stored under a key. -/
def lookup [Inhabited α] (t : Table K α) (k : K) : Option α := (t.index.lookup k).map t.pool.read

/-- Overwrite the content of a present key. -/
def modify (t : Table K α) (k : K) (v : α) : Table K α :=
  match t.index.lookup k with
  | none => t
  | some ref => {t with pool := t.pool.write ref v}

/-- Bind an absent key to a cell taken from the pool. -/
def store [Inhabited α] (t : Table K α) (k : K) (v : α) : Table K α :=
  {index := t.index.insert k t.pool.acquire.2, pool := t.pool.acquire.1.write t.pool.acquire.2 v}

/-- Unbind a key and put its zeroed cell on the free stack. -/
def discard [Inhabited α] (t : Table K α) (k : K) : Table K α :=
  match t.index.lookup k with
  | none => t
  | some ref => {index := t.index.erase k, pool := t.pool.release ref default}

/-- The cells of all present keys. -/
def refs (t : Table K α) : Multiset Ref := mapSum (fun _ ref => {ref}) t.index

/-- Every cell is free or under exactly one key. -/
def Balanced (t : Table K α) : Prop := t.pool.Balanced t.refs

/-- Additive total of the stored contents. -/
def sum [Inhabited α] [AddCommMonoid M] (f : α → M) (t : Table K α) : M :=
  mapSum (fun _ ref => f (t.pool.read ref)) t.index

variable {t : Table K α} {k j : K} {v old : α} {ref : Ref}

omit [DecidableEq K] in
theorem balanced_empty : Balanced ({} : Table K α) := rfl

theorem refs_of_lookup (h : t.index.lookup k=some ref) :
    t.refs=ref::ₘmapSum (fun _ ref => {ref}) (t.index.erase k) :=
  mapSum_of_lookup _ h

theorem mem_refs (h : t.index.lookup k=some ref) : ref∈t.refs := by
  rw [refs_of_lookup h]
  exact Multiset.mem_cons_self _ _

/-- The cells of other keys are other cells. -/
theorem notMem_others (h : t.Balanced) (hk : t.index.lookup k=some ref) :
    ref∉mapSum (fun _ ref => ({ref} : Multiset Ref)) (t.index.erase k) := by
  have hnodup := h.nodup
  rw [refs_of_lookup hk] at hnodup
  exact (Multiset.nodup_cons.mp hnodup).1

theorem ref_ne (h : t.Balanced) {other : Ref} (hk : t.index.lookup k=some ref)
    (hj : t.index.lookup j=some other) (hne : j≠k) : other≠ref := by
  rintro rfl
  apply notMem_others h hk
  apply mem_mapSum.mpr
  refine ⟨j,other,?_,Multiset.mem_singleton_self _⟩
  rw [lookup_erase_ite,if_neg hne,hj]

theorem modify_balanced (h : t.Balanced) : (t.modify k v).Balanced := by
  unfold modify
  cases t.index.lookup k with
  | none => exact h
  | some ref => exact Pool.write_balanced h

variable [Inhabited α]

/-- An absent key has no content. -/
theorem lookup_eq_none : t.lookup k=none ↔ t.index.lookup k=none := Option.map_eq_none_iff

theorem lookup_eq_some : t.lookup k=some v ↔ ∃ ref, t.index.lookup k=some ref ∧ t.pool.read ref=v :=
  Option.map_eq_some_iff

/-- A total depends only on the contents. -/
theorem sum_congr [AddCommMonoid M] {f g : α → M} (h : ∀ k v, t.lookup k=some v → f v=g v) :
    t.sum f=t.sum g := by
  apply mapSum_congr
  intro k ref hk
  exact h k _ (lookup_eq_some.mpr ⟨ref,hk,rfl⟩)

/-- A total of multisets holds what some stored content contributes. -/
theorem mem_sum {T : Type} {f : α → Multiset T} {x : T} :
    x∈t.sum f ↔ ∃ k v, t.lookup k=some v ∧ x∈f v := by
  unfold sum
  rw [mem_mapSum]
  constructor
  · rintro ⟨k,ref,hk,hx⟩
    exact ⟨k,_,lookup_eq_some.mpr ⟨ref,hk,rfl⟩,hx⟩
  · rintro ⟨k,v,hk,hx⟩
    obtain ⟨ref,href,rfl⟩ := lookup_eq_some.mp hk
    exact ⟨k,ref,href,hx⟩

section Discard

theorem discard_balanced (h : t.Balanced) : (t.discard k).Balanced := by
  unfold discard
  cases hk : t.index.lookup k with
  | none => exact h
  | some ref =>
    unfold Balanced at h
    rw [refs_of_lookup hk] at h
    exact Pool.release_balanced h

theorem lookup_discard (h : t.Balanced) :
    (t.discard k).lookup j=if j=k then none else t.lookup j := by
  unfold discard lookup
  cases hk : t.index.lookup k with
  | none =>
    split_ifs with hjk
    · rw [hjk,hk]
      rfl
    · rfl
  | some ref =>
    dsimp only
    rw [lookup_erase_ite]
    split_ifs with hjk
    · rfl
    · cases hj : t.index.lookup j with
      | none => rfl
      | some other =>
        rw [Option.map_some,Option.map_some,Pool.read_release_ne (ref_ne h hk hj hjk)]

/-- Discarding removes one contribution. -/
theorem sum_discard [AddCommMonoid M] (f : α → M) (h : t.Balanced) (hk : t.lookup k=some old) :
    t.sum f=f old+(t.discard k).sum f := by
  obtain ⟨ref,href,hold⟩ := lookup_eq_some.mp hk
  unfold discard
  rw [href]
  unfold sum
  dsimp only
  rw [mapSum_of_lookup _ href,hold]
  congr 1
  apply mapSum_erase_congr
  intro j other hne hj
  rw [Pool.read_release_ne (ref_ne h href hj hne)]

theorem discard_of_lookup_eq_none (hk : t.lookup k=none) : t.discard k=t := by
  unfold discard
  rw [lookup_eq_none.mp hk]

end Discard

section Modify

theorem lookup_modify (h : t.Balanced) :
    (t.modify k v).lookup j=if j=k then (t.lookup k).map (fun _ => v) else t.lookup j := by
  unfold modify lookup
  cases hk : t.index.lookup k with
  | none =>
    split_ifs with hjk
    · rw [hjk,hk]
      rfl
    · rfl
  | some ref =>
    split_ifs with hjk
    · rw [hjk,hk,Option.map_some,Pool.read_write_self (h.lt (mem_refs hk))]
      rfl
    · cases hj : t.index.lookup j with
      | none => rfl
      | some other =>
        rw [Option.map_some,Option.map_some,Pool.read_write_ne (ref_ne h hk hj hjk)]

/-- Overwriting exchanges one contribution. -/
theorem sum_modify [AddCommMonoid M] (f : α → M) (h : t.Balanced) (hk : t.lookup k=some old) :
    (t.modify k v).sum f=f v+(t.discard k).sum f := by
  obtain ⟨ref,href,-⟩ := lookup_eq_some.mp hk
  unfold modify discard sum
  rw [href]
  dsimp only
  rw [mapSum_of_lookup _ href,Pool.read_write_self (h.lt (mem_refs href))]
  congr 1
  apply mapSum_erase_congr
  intro j other hne hj
  have hother := ref_ne h href hj hne
  rw [Pool.read_write_ne hother,Pool.read_release_ne hother]

end Modify

section Store

theorem refs_store (hk : t.lookup k=none) : (t.store k v).refs=t.pool.acquire.2::ₘt.refs := by
  have habsent : k∉t.index := Finmap.lookup_eq_none.mp (lookup_eq_none.mp hk)
  exact mapSum_insert_of_notMem _ _ habsent

theorem store_balanced (h : t.Balanced) (hk : t.lookup k=none) : (t.store k v).Balanced := by
  unfold Balanced
  rw [refs_store hk]
  exact Pool.write_balanced (Pool.acquire_balanced h)

/-- Storing changes no other key's cell. -/
theorem read_store (h : t.Balanced) (hj : t.index.lookup j=some ref) :
    (t.store k v).pool.read ref=t.pool.read ref := by
  have hmem := mem_refs hj
  have hne : ref≠t.pool.acquire.2 := by
    rintro rfl
    exact Pool.acquire_notMem h hmem
  unfold store
  dsimp only
  rw [Pool.read_write_ne hne,Pool.read_acquire (h.lt hmem)]

theorem read_store_self (h : t.Balanced) :
    (t.store k v).pool.read t.pool.acquire.2=v :=
  Pool.read_write_self ((Pool.acquire_balanced h).lt (Multiset.mem_cons_self _ _))

theorem lookup_store (h : t.Balanced) :
    (t.store k v).lookup j=if j=k then some v else t.lookup j := by
  unfold lookup
  change ((t.index.insert k t.pool.acquire.2).lookup j).map _=_
  rw [lookup_insert_ite]
  split_ifs with hjk
  · rw [Option.map_some,read_store_self h]
  · cases hj : t.index.lookup j with
    | none => rfl
    | some ref => rw [Option.map_some,Option.map_some,read_store h hj]

/-- Storing adds one contribution. -/
theorem sum_store [AddCommMonoid M] (f : α → M) (h : t.Balanced) (hk : t.lookup k=none) :
    (t.store k v).sum f=f v+t.sum f := by
  have habsent : k∉t.index := Finmap.lookup_eq_none.mp (lookup_eq_none.mp hk)
  unfold sum
  change mapSum _ (t.index.insert k t.pool.acquire.2)=_
  rw [mapSum_insert_of_notMem _ _ habsent,read_store_self h]
  congr 1
  apply mapSum_congr
  intro j ref hj
  rw [read_store h hj]

end Store

end Table

end StraceGo.ObjectPool

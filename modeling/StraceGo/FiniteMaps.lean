import Mathlib.Data.Finmap
import Mathlib.Algebra.BigOperators.Group.Multiset.Basic
import Mathlib.Data.Multiset.Bind

/-!
# Finite maps with fixed key and value types

Lookup after an update as one conditional, the additive total of a map, and
the change of that total under an update. A total is taken over the unordered
entries, so it does not depend on the order in which a loop visits the map.
Orders themselves are lists that list every key once.
-/

namespace StraceGo.FiniteMaps

variable {K V M : Type} [DecidableEq K]

/-- Finite map with keys and values of fixed types. -/
abbrev GoMap (K V : Type) : Type := Finmap (fun _ : K => V)

/-- Reading after a write. -/
theorem lookup_insert_ite (m : GoMap K V) (k j : K) (v : V) :
    (m.insert k v).lookup j=if j=k then some v else m.lookup j := by
  split_ifs with h
  · rw [h,Finmap.lookup_insert]
  · rw [Finmap.lookup_insert_of_ne m h]

/-- Reading after a deletion. -/
theorem lookup_erase_ite (m : GoMap K V) (k j : K) :
    (m.erase k).lookup j=if j=k then none else m.lookup j := by
  split_ifs with h
  · rw [h,Finmap.lookup_erase]
  · rw [Finmap.lookup_erase_ne h]

/-- Deleting an absent key changes nothing. -/
theorem erase_eq_self {m : GoMap K V} {k : K} (h : m.lookup k=none) : m.erase k=m := by
  apply Finmap.ext_lookup
  intro j
  rw [lookup_erase_ite]
  split_ifs with hj
  · rw [hj,h]
  · rfl

/-- An empty map has nothing to delete. -/
@[simp] theorem erase_empty (k : K) : (∅ : GoMap K V).erase k=∅ :=
  erase_eq_self (Finmap.lookup_empty k)

/-- A write forgets any earlier value at its key. -/
theorem insert_erase (m : GoMap K V) (k : K) (v : V) : (m.erase k).insert k v=m.insert k v := by
  apply Finmap.ext_lookup
  intro j
  simp only [lookup_insert_ite,lookup_erase_ite]
  split_ifs <;> rfl

/-- Writing back a stored value changes nothing. -/
theorem insert_of_lookup {m : GoMap K V} {k : K} {v : V} (h : m.lookup k=some v) :
    m.insert k v=m := by
  apply Finmap.ext_lookup
  intro j
  rw [lookup_insert_ite]
  split_ifs with hj
  · rw [hj,h]
  · rfl

/-- An order in which a loop may visit a map: every key exactly once. -/
def Enumerates (order : List K) (m : GoMap K V) : Prop :=
  order.Nodup ∧ ∀ k, k∈order ↔ k∈m

/-- A loop over a map finds a binding that passes a test exactly when there is one. -/
theorem any_iff {f : K → V → Bool} {m : GoMap K V} :
    m.any f=true ↔ ∃ k v, m.lookup k=some v ∧ f k v=true := by
  have hentries : ∀ (entries : List (Sigma fun _ : K => V)) (found : Bool),
      entries.foldl (fun found e => found || f e.1 e.2) found=true ↔
        found=true ∨ ∃ e∈entries, f e.1 e.2=true := by
    intro entries
    induction entries with
    | nil => simp
    | cons e entries ih =>
      intro found
      rw [List.foldl_cons,ih]
      simp [or_assoc]
  have hfound : m.any f=true ↔ ∃ e∈m.entries, f e.1 e.2=true := by
    unfold Finmap.any Finmap.foldl
    induction m.entries using Quotient.inductionOn with
    | h entries => simpa using hentries entries false
  rw [hfound]
  constructor
  · rintro ⟨⟨k,v⟩,hentry,hf⟩
    exact ⟨k,v,Finmap.lookup_eq_some_iff.mpr hentry,hf⟩
  · rintro ⟨k,v,hlookup,hf⟩
    exact ⟨⟨k,v⟩,Finmap.lookup_eq_some_iff.mp hlookup,hf⟩

/-- Additive total of the bindings, independent of any visiting order. -/
def mapSum [AddCommMonoid M] (f : K → V → M) (m : GoMap K V) : M :=
  (m.entries.map (fun e => f e.1 e.2)).sum

section Totals

variable [AddCommMonoid M] (f : K → V → M)

variable {f} in
/-- A total depends only on what the bindings contribute. -/
theorem mapSum_congr {g : K → V → M} {m : GoMap K V}
    (h : ∀ k v, m.lookup k=some v → f k v=g k v) : mapSum f m=mapSum g m := by
  unfold mapSum
  congr 1
  apply Multiset.map_congr rfl
  intro entry hentry
  exact h entry.1 entry.2 (Finmap.lookup_eq_some_iff.mpr hentry)

variable {f} in
/-- The total of the other keys depends only on what they contribute. -/
theorem mapSum_erase_congr {g : K → V → M} {m : GoMap K V} {k : K}
    (h : ∀ j v, j≠k → m.lookup j=some v → f j v=g j v) :
    mapSum f (m.erase k)=mapSum g (m.erase k) := by
  apply mapSum_congr
  intro j v hlookup
  rw [lookup_erase_ite] at hlookup
  split_ifs at hlookup with hj
  exact h j v hj hlookup

/-- A new binding adds its own contribution. -/
theorem mapSum_insert_of_notMem {m : GoMap K V} {k : K} (v : V) (h : k∉m) :
    mapSum f (m.insert k v)=f k v+mapSum f m := by
  rw [mapSum,Finmap.entries_insert_of_notMem h,Multiset.map_cons,Multiset.sum_cons]
  rfl

/-- A write leaves the contributions of every other key. -/
theorem mapSum_insert (m : GoMap K V) (k : K) (v : V) :
    mapSum f (m.insert k v)=f k v+mapSum f (m.erase k) := by
  rw [←insert_erase,mapSum_insert_of_notMem f v Finmap.notMem_erase_self]

/-- The total splits off any stored binding. -/
theorem mapSum_of_lookup {m : GoMap K V} {k : K} {v : V} (h : m.lookup k=some v) :
    mapSum f m=f k v+mapSum f (m.erase k) := by
  rw [←mapSum_insert,insert_of_lookup h]

/-- The total splits at any key whose missing binding would contribute nothing. -/
theorem mapSum_split (m : GoMap K V) (k : K) {missing : V} (hmissing : f k missing=0) :
    mapSum f m=f k ((m.lookup k).getD missing)+mapSum f (m.erase k) := by
  cases h : m.lookup k with
  | none => rw [Option.getD_none,hmissing,zero_add,erase_eq_self h]
  | some v => rw [Option.getD_some,←mapSum_of_lookup f h]

end Totals

omit [DecidableEq K] in
/-- Additive maps commute with totals. -/
theorem map_mapSum {N : Type} [AddCommMonoid M] [AddCommMonoid N] (g : M →+ N)
    (f : K → V → M) (m : GoMap K V) :
    g (mapSum f m)=mapSum (fun k v => g (f k v)) m := by
  rw [mapSum,map_multiset_sum,Multiset.map_map]
  rfl

/-- A total of multisets holds the elements of every binding's contribution. -/
theorem mem_mapSum {T : Type} {f : K → V → Multiset T} {m : GoMap K V} {x : T} :
    x∈mapSum f m ↔ ∃ k v, m.lookup k=some v ∧ x∈f k v := by
  change x∈(m.entries.map (fun e => f e.1 e.2)).join ↔ _
  rw [Multiset.mem_join]
  constructor
  · rintro ⟨part,hpart,hx⟩
    obtain ⟨⟨k,v⟩,hentry,rfl⟩ := Multiset.mem_map.mp hpart
    exact ⟨k,v,Finmap.lookup_eq_some_iff.mpr hentry,hx⟩
  · rintro ⟨k,v,hlookup,hx⟩
    exact ⟨f k v,Multiset.mem_map.mpr ⟨⟨k,v⟩,Finmap.lookup_eq_some_iff.mp hlookup,rfl⟩,hx⟩

end StraceGo.FiniteMaps

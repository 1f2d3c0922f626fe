import StraceGo.FiniteMaps

/-!
# Writes and loops over keyed maps

Lists of writes at addresses that a key function turns into keys, and the
three loops that delete, copy and mark the entries a test selects. A loop
visits a map in an order the program does not fix; an order that covers the
map decides the result. A map mirrors a function when it is the image of the
function under a renaming of keys, and writes and loops keep it so.
-/

namespace StraceGo.KeyedMaps

open FiniteMaps

variable {A K L V W : Type} [DecidableEq K] [DecidableEq L]

/-- Set the value at an address, or delete it. -/
structure Write (A V : Type) where
  /-- Address. -/
  address : A
  /-- New value, none for a deletion. -/
  value : Option V

/-- Effect of one write. -/
def Write.apply (key : A → K) (m : GoMap K V) (w : Write A V) : GoMap K V :=
  match w.value with
  | none => m.erase (key w.address)
  | some v => m.insert (key w.address) v

/-- Effect of writes in order. -/
def applyWrites (key : A → K) (m : GoMap K V) (writes : List (Write A V)) : GoMap K V :=
  writes.foldl (Write.apply key) m

section Writes

variable {key : A → K} {m : GoMap K V} {k : K}

/-- Reading after one write. -/
theorem lookup_apply (w : Write A V) :
    (w.apply key m).lookup k=if k=key w.address then w.value else m.lookup k := by
  unfold Write.apply
  cases hvalue : w.value with
  | none => exact lookup_erase_ite m (key w.address) k
  | some v => exact lookup_insert_ite m (key w.address) k v

@[simp] theorem applyWrites_nil (m : GoMap K V) : applyWrites key m []=m := rfl

@[simp] theorem applyWrites_cons (m : GoMap K V) (w : Write A V) (writes : List (Write A V)) :
    applyWrites key m (w::writes)=applyWrites key (w.apply key m) writes := rfl

/-- Writes elsewhere leave a key. -/
theorem lookup_applyWrites_of_ne {writes : List (Write A V)}
    (h : ∀ w∈writes, key w.address≠k) : (applyWrites key m writes).lookup k=m.lookup k := by
  induction writes generalizing m with
  | nil => rfl
  | cons w writes ih =>
    rw [applyWrites_cons,ih (fun other hother => h other (List.mem_cons_of_mem w hother)),
      lookup_apply,if_neg (fun hk => h w List.mem_cons_self hk.symm)]

/-- What a key holds after writes depends only on what it held before. -/
theorem lookup_applyWrites_congr {n : GoMap K V} (writes : List (Write A V))
    (h : m.lookup k=n.lookup k) :
    (applyWrites key m writes).lookup k=(applyWrites key n writes).lookup k := by
  induction writes generalizing m n with
  | nil => exact h
  | cons w writes ih =>
    rw [applyWrites_cons,applyWrites_cons]
    apply ih
    rw [lookup_apply,lookup_apply,h]

/-- A written key forgets what it held before. -/
theorem lookup_applyWrites_of_mem {n : GoMap K V} {writes : List (Write A V)}
    (h : ∃ w∈writes, key w.address=k) :
    (applyWrites key m writes).lookup k=(applyWrites key n writes).lookup k := by
  induction writes generalizing m n with
  | nil => simp at h
  | cons w writes ih =>
    rw [applyWrites_cons,applyWrites_cons]
    by_cases hlater : ∃ w∈writes, key w.address=k
    · exact ih hlater
    · have hw : k=key w.address := by
        obtain ⟨other,hother,hk⟩ := h
        rcases List.mem_cons.mp hother with rfl | hother
        · exact hk.symm
        · exact absurd ⟨other,hother,hk⟩ hlater
      apply lookup_applyWrites_congr
      rw [lookup_apply,lookup_apply,if_pos hw,if_pos hw]

/-- Two maps agree on every key but one. -/
def AgreeExcept (k : K) (m n : GoMap K V) : Prop := ∀ j, j≠k → m.lookup j=n.lookup j

/-- The same writes keep two maps in agreement. -/
theorem AgreeExcept.applyWrites {n : GoMap K V} (h : AgreeExcept k m n)
    (writes : List (Write A V)) :
    AgreeExcept k (applyWrites key m writes) (applyWrites key n writes) :=
  fun j hj => lookup_applyWrites_congr writes (h j hj)

/-- A write at the key the maps disagree on makes them equal. -/
theorem AgreeExcept.applyWrites_eq {n : GoMap K V} (h : AgreeExcept k m n)
    {writes : List (Write A V)} (hmem : ∃ w∈writes, key w.address=k) :
    KeyedMaps.applyWrites key m writes=KeyedMaps.applyWrites key n writes := by
  apply Finmap.ext_lookup
  intro j
  by_cases hj : j=k
  · rw [hj]
    exact lookup_applyWrites_of_mem hmem
  · exact h.applyWrites writes j hj

end Writes

/-- An order visits every key of a map. -/
def Covers (order : List K) (m : GoMap K V) : Prop := ∀ k, m.lookup k≠none → k∈order

/-- Every map can be visited. -/
theorem exists_covers (m : GoMap K V) : ∃ order, Covers order m := by
  refine ⟨m.keys.toList,fun k hk => ?_⟩
  rw [Finset.mem_toList,Finmap.mem_keys,←Finmap.lookup_isSome]
  exact Option.isSome_iff_ne_none.mpr hk

/-- Keys of a map in visiting order. -/
def visited (order : List K) (m : GoMap K V) : List K :=
  order.filter fun k => (m.lookup k).isSome

/-- Delete the visited entry if it passes a test. -/
def deleteEntry (p : K → V → Bool) (m : GoMap K V) (k : K) : GoMap K V :=
  match m.lookup k with
  | none => m
  | some v => if p k v then m.erase k else m

/-- Delete the entries that pass a test. -/
def deleteWhere (order : List K) (p : K → V → Bool) (m : GoMap K V) : GoMap K V :=
  order.foldl (deleteEntry p) m

/-- Copy the visited entry to another key if it passes a test. -/
def copyEntry (p : K → Bool) (f : K → K) (m : GoMap K V) (k : K) : GoMap K V :=
  match m.lookup k with
  | none => m
  | some v => if p k then m.insert (f k) v else m

/-- Copy the entries that pass a test to other keys of the same map. -/
def copyWhere (order : List K) (p : K → Bool) (f : K → K) (m : GoMap K V) : GoMap K V :=
  order.foldl (copyEntry p f) m

/-- Set a value at the keys that pass a test. -/
def markWhere (keys : List K) (p : K → Bool) (v : V) (m : GoMap K V) : GoMap K V :=
  keys.foldl (fun m k => if p k then m.insert k v else m) m

section Loops

variable {m : GoMap K V} {k : K}

theorem mem_visited {order : List K} (h : Covers order m) :
    k∈visited order m ↔ m.lookup k≠none := by
  unfold visited
  rw [List.mem_filter,Option.isSome_iff_ne_none]
  exact ⟨fun hk => hk.2,fun hk => ⟨h k hk,hk⟩⟩

/-- Reading after one deletion of the loop. -/
theorem lookup_deleteEntry (p : K → V → Bool) (j : K) :
    (deleteEntry p m j).lookup k=
      if k=j then (m.lookup k).filter fun v => !p k v else m.lookup k := by
  by_cases hj : k=j
  · subst hj
    unfold deleteEntry
    rw [if_pos rfl]
    cases hlookup : m.lookup k with
    | none => simp [hlookup]
    | some v => cases hp : p k v <;> simp [hp,hlookup,Option.filter]
  · unfold deleteEntry
    rw [if_neg hj]
    cases hlookup : m.lookup j with
    | none => rfl
    | some v => cases hp : p j v <;> simp [hp,hj]

/-- Reading after a deleting loop. -/
theorem lookup_deleteWhere_ite (order : List K) (p : K → V → Bool) :
    (deleteWhere order p m).lookup k=
      if k∈order then (m.lookup k).filter fun v => !p k v else m.lookup k := by
  unfold deleteWhere
  induction order generalizing m with
  | nil => rfl
  | cons j order ih =>
    rw [List.foldl_cons,ih,lookup_deleteEntry]
    by_cases hj : k=j
    · by_cases horder : k∈order <;> simp [hj,Option.filter_filter]
    · simp [hj]

/-- A deleting loop that covers the map keeps exactly the entries that fail the test. -/
theorem lookup_deleteWhere {order : List K} (h : Covers order m) (p : K → V → Bool) :
    (deleteWhere order p m).lookup k=(m.lookup k).filter fun v => !p k v := by
  rw [lookup_deleteWhere_ite]
  split_ifs with hk
  · rfl
  · have hnone : m.lookup k=none := by
      by_contra hne
      exact hk (h k hne)
    rw [hnone,Option.filter_none]

/-- A loop over an empty map deletes nothing. -/
theorem deleteWhere_empty (order : List K) (p : K → V → Bool) :
    deleteWhere order p (∅ : GoMap K V)=∅ := by
  apply Finmap.ext_lookup
  intro k
  rw [lookup_deleteWhere_ite]
  simp

/-- Reading after a marking loop. -/
theorem lookup_markWhere (keys : List K) (p : K → Bool) (v : V) :
    (markWhere keys p v m).lookup k=if k∈keys ∧ p k=true then some v else m.lookup k := by
  unfold markWhere
  induction keys generalizing m with
  | nil => simp
  | cons j keys ih =>
    rw [List.foldl_cons,ih]
    by_cases hj : k=j
    · subst hj
      cases hp : p k <;> simp
    · cases hp : p j <;> simp [hj]

/-- One copy leaves every key but its target. -/
theorem lookup_copyEntry_of_ne {p : K → Bool} {f : K → K} {j : K}
    (h : m.lookup j≠none → p j=true → f j≠k) : (copyEntry p f m j).lookup k=m.lookup k := by
  unfold copyEntry
  cases hlookup : m.lookup j with
  | none => rfl
  | some v =>
    cases hp : p j with
    | false => rfl
    | true =>
      have hne : f j≠k := h (by simp [hlookup]) hp
      simp only [if_true]
      rw [lookup_insert_ite,if_neg hne.symm]

/-- Entries a copying loop may read: those that pass the test and are copied to keys that fail
it. -/
def CopiesOut (p : K → Bool) (f : K → K) (m : GoMap K V) : Prop :=
  ∀ j, m.lookup j≠none → p j=true → p (f j)=false

/-- A copying loop leaves the entries it reads. -/
theorem lookup_copyWhere_source {p : K → Bool} {f : K → K} (hout : CopiesOut p f m)
    (order : List K) (hk : p k=true) : (copyWhere order p f m).lookup k=m.lookup k := by
  unfold copyWhere
  induction order using List.reverseRecOn generalizing k with
  | nil => rfl
  | append_singleton order j ih =>
    rw [List.foldl_append,List.foldl_cons,List.foldl_nil,lookup_copyEntry_of_ne,ih hk]
    intro hj hp hjk
    rw [ih hp] at hj
    rw [←hjk,hout j hj hp] at hk
    exact Bool.noConfusion hk

/-- A copying loop leaves every key that is not a target. -/
theorem lookup_copyWhere_of_ne {p : K → Bool} {f : K → K} (hout : CopiesOut p f m)
    (order : List K) (h : ∀ j, m.lookup j≠none → p j=true → f j≠k) :
    (copyWhere order p f m).lookup k=m.lookup k := by
  induction order using List.reverseRecOn with
  | nil => rfl
  | append_singleton order j ih =>
    have hlast : copyWhere (order ++ [j]) p f m=copyEntry p f (copyWhere order p f m) j := by
      unfold copyWhere
      rw [List.foldl_append,List.foldl_cons,List.foldl_nil]
    rw [hlast,lookup_copyEntry_of_ne,ih]
    intro hj hp
    rw [lookup_copyWhere_source hout order hp] at hj
    exact h j hj hp

/-- A copying loop that covers the map fills the target of every entry it selects. -/
theorem lookup_copyWhere_target {p : K → Bool} {f : K → K} {order : List K}
    (hout : CopiesOut p f m) (hcovers : Covers order m)
    (hinjective : ∀ i j, m.lookup i≠none → m.lookup j≠none → p i=true → p j=true → f i=f j → i=j)
    {v : V} (hv : m.lookup k=some v) (hk : p k=true) :
    (copyWhere order p f m).lookup (f k)=some v := by
  have hpresent : m.lookup k≠none := by simp [hv]
  have horder : k∈order := hcovers k hpresent
  clear hcovers
  induction order using List.reverseRecOn with
  | nil => simp at horder
  | append_singleton order j ih =>
    have hlast : copyWhere (order ++ [j]) p f m=copyEntry p f (copyWhere order p f m) j := by
      unfold copyWhere
      rw [List.foldl_append,List.foldl_cons,List.foldl_nil]
    rw [hlast]
    by_cases hjk : j=k
    · subst hjk
      unfold copyEntry
      rw [lookup_copyWhere_source hout order hk,hv]
      simp [hk]
    · rw [lookup_copyEntry_of_ne,ih]
      · simpa [Ne.symm hjk] using horder
      · intro hj hp hfj
        rw [lookup_copyWhere_source hout order hp] at hj
        exact hjk (hinjective j k hj hpresent hp hk hfj)

/-- A loop over an empty map copies nothing. -/
theorem copyWhere_empty (order : List K) (p : K → Bool) (f : K → K) :
    copyWhere order p f (∅ : GoMap K V)=∅ := by
  unfold copyWhere
  induction order with
  | nil => rfl
  | cons j order ih => exact ih

end Loops

/-- Marking a map's own keys settles it once its order visits every key not marked yet. -/
def Settles (order : List K) (p : K → Bool) (v : V) (m : GoMap K V) : Prop :=
  ∀ k, m.lookup k≠none → p k=true → k∈order ∨ m.lookup k=some v

section Settling

variable {m : GoMap K V} {k : K} {order : List K} {p : K → Bool} {v : V}

theorem Covers.settles (h : Covers order m) (p : K → Bool) (v : V) : Settles order p v m :=
  fun k hk _ => Or.inl (h k hk)

/-- Marking more keys keeps an order sufficient. -/
theorem Settles.markWhere (h : Settles order p v m) (keys : List K) :
    Settles order p v (markWhere keys p v m) := by
  intro k hk hp
  rw [lookup_markWhere] at hk ⊢
  split_ifs at hk ⊢ with hkeys
  · exact Or.inr rfl
  · exact h k hk hp

/-- Reading after a map's own keys are marked. -/
theorem lookup_markWhere_visited (h : Settles order p v m) :
    (KeyedMaps.markWhere (visited order m) p v m).lookup k=
      if p k=true ∧ m.lookup k≠none then some v else m.lookup k := by
  rw [lookup_markWhere]
  by_cases hk : p k=true ∧ m.lookup k≠none
  · rw [if_pos hk]
    split_ifs with hvisited
    · rfl
    · rcases h k hk.2 hk.1 with horder | hmarked
      · have hmem : k∈visited order m :=
          List.mem_filter.mpr ⟨horder,Option.isSome_iff_ne_none.mpr hk.2⟩
        exact absurd ⟨hmem,hk.1⟩ hvisited
      · exact hmarked
  · rw [if_neg hk,if_neg]
    rintro ⟨hmem,hp⟩
    exact hk ⟨hp,Option.isSome_iff_ne_none.mp (List.mem_filter.mp hmem).2⟩

end Settling

/-- A map is the image of a function under a renaming of keys. -/
structure Mirrors (e : L → K) (m : GoMap K V) (f : L → Option V) : Prop where
  /-- Renamed keys hold the same. -/
  lookup : ∀ l, m.lookup (e l)=f l
  /-- Every key is a renamed one. -/
  range : ∀ k, m.lookup k≠none → ∃ l, e l=k

/-- Writes on a function. -/
def writeAll (key : A → L) (f : L → Option V) (writes : List (Write A V)) : L → Option V :=
  writes.foldl (fun f w => Function.update f (key w.address) w.value) f

/-- Writes elsewhere leave a place. -/
theorem writeAll_of_ne {key : A → L} {f : L → Option V} {l : L} {writes : List (Write A V)}
    (h : ∀ w∈writes, key w.address≠l) : writeAll key f writes l=f l := by
  unfold writeAll
  induction writes generalizing f with
  | nil => rfl
  | cons w writes ih =>
    rw [List.foldl_cons,ih (fun other hother => h other (List.mem_cons_of_mem w hother)),
      Function.update_of_ne (h w List.mem_cons_self).symm]

section Images

variable {e : L → K} {m : GoMap K V} {f : L → Option V}

omit [DecidableEq L] in
theorem mirrors_empty : Mirrors e (∅ : GoMap K V) fun _ => none where
  lookup l := by simp
  range k hk := by simp at hk

omit [DecidableEq L] in
/-- A function has one image. -/
theorem Mirrors.eq {n : GoMap K V} (h : Mirrors e m f) (hn : Mirrors e n f) : m=n := by
  apply Finmap.ext_lookup
  intro k
  by_cases hk : ∃ l, e l=k
  · obtain ⟨l,rfl⟩ := hk
    rw [h.lookup,hn.lookup]
  · have hm : m.lookup k=none := not_not.mp fun hne => hk (h.range k hne)
    have hn' : n.lookup k=none := not_not.mp fun hne => hk (hn.range k hne)
    rw [hm,hn']

/-- Writes keep the image. -/
theorem Mirrors.applyWrites (h : Mirrors e m f) (he : Function.Injective e) {key : A → K}
    {key' : A → L} (hkey : ∀ a, e (key' a)=key a) (writes : List (Write A V)) :
    Mirrors e (applyWrites key m writes) (writeAll key' f writes) := by
  unfold writeAll
  induction writes generalizing m f with
  | nil => exact h
  | cons w writes ih =>
    rw [applyWrites_cons,List.foldl_cons]
    apply ih
    constructor
    · intro l
      rw [lookup_apply,h.lookup,←hkey,Function.update_apply]
      simp only [he.eq_iff]
    · intro k hk
      rw [lookup_apply] at hk
      split_ifs at hk with hw
      · exact ⟨key' w.address,by rw [hw,hkey]⟩
      · exact h.range k hk

omit [DecidableEq L] in
/-- A deleting loop that covers the map keeps the image. -/
theorem Mirrors.deleteWhere (h : Mirrors e m f) {order : List K} (hcovers : Covers order m)
    {p : K → V → Bool} {q : L → V → Bool} (hpq : ∀ l v, f l=some v → p (e l) v=q l v) :
    Mirrors e (deleteWhere order p m) fun l => (f l).filter fun v => !q l v where
  lookup l := by
    rw [lookup_deleteWhere hcovers,h.lookup]
    cases hl : f l with
    | none => rfl
    | some v => simp [Option.filter,hpq l v hl]
  range k hk := by
    rw [lookup_deleteWhere hcovers] at hk
    exact h.range k fun hnone => hk (by rw [hnone,Option.filter_none])

omit [DecidableEq L] in
/-- A marking loop over a mirrored map keeps the image. -/
theorem Mirrors.markWhere (h : Mirrors e m f) {r : GoMap K W} {g : L → Option W}
    (hr : Mirrors e r g) {order : List K} (hcovers : Covers order r) {p : K → Bool} {q : L → Bool}
    (hpq : ∀ l, p (e l)=q l) (v : V) :
    Mirrors e (markWhere (visited order r) p v m)
      fun l => if q l=true ∧ g l≠none then some v else f l where
  lookup l := by
    rw [lookup_markWhere]
    simp only [mem_visited hcovers,hr.lookup,h.lookup,hpq,and_comm]
  range k hk := by
    rw [lookup_markWhere] at hk
    split_ifs at hk with hp
    · exact hr.range k ((mem_visited hcovers).mp hp.1)
    · exact h.range k hk

omit [DecidableEq L] in
/-- A loop that marks a map's own keys keeps the image. -/
theorem Mirrors.markVisited (h : Mirrors e m f) {order : List K} {p : K → Bool} {v : V}
    (hsettles : Settles order p v m) {q : L → Bool} (hpq : ∀ l, p (e l)=q l) :
    Mirrors e (KeyedMaps.markWhere (visited order m) p v m)
      fun l => if q l=true ∧ f l≠none then some v else f l where
  lookup l := by
    rw [lookup_markWhere_visited hsettles]
    simp only [h.lookup,hpq]
  range k hk := by
    rw [lookup_markWhere_visited hsettles] at hk
    split_ifs at hk with hp
    · exact h.range k hp.2
    · exact h.range k hk

omit [DecidableEq L] in
/-- A copying loop keeps the image: every target takes the entry of its source, if that has
one. -/
theorem Mirrors.copyWhere (h : Mirrors e m f) {order : List K}
    (hcovers : Covers order m) {p : K → Bool} {target : K → K} {source : L → Option L}
    (hsource : ∀ i l, source l=some i ↔ p (e i)=true ∧ target (e i)=e l)
    (hout : ∀ i, p (e i)=true → p (target (e i))=false)
    (hto : ∀ i, p (e i)=true → ∃ l, target (e i)=e l) :
    Mirrors e (copyWhere order p target m) fun l => ((source l).bind f).or (f l) := by
  have hcopies : CopiesOut p target m := by
    intro k hk hp
    obtain ⟨i,rfl⟩ := h.range k hk
    exact hout i hp
  have hdistinct : ∀ i j, m.lookup i≠none → m.lookup j≠none → p i=true → p j=true →
      target i=target j → i=j := by
    intro i j hi hj hpi hpj hij
    obtain ⟨a,rfl⟩ := h.range i hi
    obtain ⟨b,rfl⟩ := h.range j hj
    obtain ⟨l,hl⟩ := hto a hpi
    have ha := (hsource a l).mpr ⟨hpi,hl⟩
    have hb := (hsource b l).mpr ⟨hpj,by rw [←hij,hl]⟩
    rw [ha] at hb
    rw [Option.some.inj hb]
  constructor
  · intro l
    by_cases htarget : ∃ i v, source l=some i ∧ f i=some v
    · obtain ⟨i,v,hi,hv⟩ := htarget
      obtain ⟨hp,hl⟩ := (hsource i l).mp hi
      rw [←hl,lookup_copyWhere_target hcopies hcovers hdistinct (by rw [h.lookup,hv]) hp,hi]
      simp [hv]
    · have hnone : (source l).bind f=none := by
        cases hi : source l with
        | none => rfl
        | some i =>
          cases hv : f i with
          | none => simp [hv]
          | some v => exact absurd ⟨i,v,hi,hv⟩ htarget
      rw [lookup_copyWhere_of_ne hcopies order,h.lookup,hnone,Option.none_or]
      intro k hk hp hl
      obtain ⟨i,rfl⟩ := h.range k hk
      rw [h.lookup] at hk
      obtain ⟨v,hv⟩ := Option.ne_none_iff_exists'.mp hk
      exact htarget ⟨i,v,(hsource i l).mpr ⟨hp,hl⟩,hv⟩
  · intro k hk
    by_cases htarget : ∃ j, m.lookup j≠none ∧ p j=true ∧ target j=k
    · obtain ⟨j,hj,hp,rfl⟩ := htarget
      obtain ⟨i,rfl⟩ := h.range j hj
      obtain ⟨l,hl⟩ := hto i hp
      exact ⟨l,hl.symm⟩
    · apply h.range k
      rwa [lookup_copyWhere_of_ne hcopies order
        (fun j hj hp hl => htarget ⟨j,hj,hp,hl⟩)] at hk

end Images

end StraceGo.KeyedMaps

import StraceGo.FiniteMaps

/-!
# Loops over all bindings of a map

A loop over a Go map visits the bindings in an order of its own. A loop that
replaces every binding by what a function makes of it, and gathers what each step
reports, leaves the same map whatever the order is; the order shows only in the
order of the reports.
-/

namespace StraceGo.MapVisits

open FiniteMaps

variable {K V R : Type} [DecidableEq K]

/-- How a loop visits maps: every key exactly once. -/
structure Visit (K V : Type) [DecidableEq K] where
  /-- The order for each map. -/
  order : GoMap K V → List K
  /-- It lists the keys of the map. -/
  enumerates : ∀ m, Enumerates (order m) m

/-- There is always an order to visit a map in. -/
theorem Visit.nonempty : Nonempty (Visit K V) :=
  ⟨⟨fun m => m.keys.toList,fun _ =>
    ⟨Finset.nodup_toList _,fun _ => Finset.mem_toList.trans Finmap.mem_keys⟩⟩⟩

/-- One step of a loop: replace the binding of a key and add what this reports. -/
def updateEntry (f : V → V×List R) (state : GoMap K V×List R) (k : K) : GoMap K V×List R :=
  match state.1.lookup k with
  | none => state
  | some v => (state.1.insert k (f v).1,state.2 ++ (f v).2)

/-- Replace every binding, in the order of the visit. -/
def updateAll (visit : Visit K V) (f : V → V×List R) (m : GoMap K V) : GoMap K V×List R :=
  (visit.order m).foldl (updateEntry f) (m,[])

/-- What a step reports for a key of the map. -/
def reports (f : V → V×List R) (m : GoMap K V) (k : K) : List R :=
  (m.lookup k).elim [] fun v => (f v).2

theorem updateEntry_lookup (f : V → V×List R) (state : GoMap K V×List R) (k j : K) :
    (updateEntry f state k).1.lookup j=
      if j=k then (state.1.lookup k).map fun v => (f v).1 else state.1.lookup j := by
  unfold updateEntry
  cases hlookup : state.1.lookup k with
  | none =>
    split_ifs with hj
    · rw [hj,hlookup,Option.map_none]
    · rfl
  | some v =>
    dsimp only
    rw [lookup_insert_ite,Option.map_some]

theorem updateEntry_reports (f : V → V×List R) (state : GoMap K V×List R) (k : K) :
    (updateEntry f state k).2=state.2 ++ reports f state.1 k := by
  unfold updateEntry reports
  cases state.1.lookup k with
  | none => exact (List.append_nil _).symm
  | some v => rfl

theorem foldl_updateEntry (f : V → V×List R) {order : List K} (hnodup : order.Nodup)
    (state : GoMap K V×List R) :
    (∀ j, (order.foldl (updateEntry f) state).1.lookup j=
      if j∈order then (state.1.lookup j).map fun v => (f v).1 else state.1.lookup j) ∧
    (order.foldl (updateEntry f) state).2=state.2 ++ order.flatMap (reports f state.1) := by
  induction order generalizing state with
  | nil => exact ⟨fun _ => (if_neg List.not_mem_nil).symm,(List.append_nil _).symm⟩
  | cons k order ih =>
    obtain ⟨hnotMem,hrest⟩ := List.nodup_cons.mp hnodup
    obtain ⟨hlookup,hreports⟩ := ih hrest (updateEntry f state k)
    rw [List.foldl_cons]
    constructor
    · intro j
      rw [hlookup,updateEntry_lookup]
      by_cases hj : j=k
      · rw [hj,if_neg hnotMem,if_pos rfl,if_pos List.mem_cons_self]
      · rw [if_neg hj]
        simp only [List.mem_cons,hj,false_or]
    · have hsame : order.flatMap (reports f (updateEntry f state k).1)=
          order.flatMap (reports f state.1) := by
        apply List.flatMap_congr
        intro j hmem
        have hj : j≠k := fun heq => hnotMem (heq ▸ hmem)
        unfold reports
        rw [updateEntry_lookup,if_neg hj]
      rw [hreports,updateEntry_reports,hsame,List.flatMap_cons,List.append_assoc]

/-- A loop makes of every binding what the function says. -/
theorem lookup_updateAll (visit : Visit K V) (f : V → V×List R) (m : GoMap K V) (k : K) :
    (updateAll visit f m).1.lookup k=(m.lookup k).map fun v => (f v).1 := by
  unfold updateAll
  obtain ⟨hnodup,hmem⟩ := visit.enumerates m
  rw [(foldl_updateEntry f hnodup (m,[])).1]
  split_ifs with hk
  · rfl
  · rw [Finmap.lookup_eq_none.mpr fun h => hk ((hmem k).mpr h),Option.map_none]

/-- A loop reports nothing exactly when no step does. -/
theorem reports_updateAll_eq_nil (visit : Visit K V) (f : V → V×List R) (m : GoMap K V) :
    (updateAll visit f m).2=[] ↔ ∀ k v, m.lookup k=some v → (f v).2=[] := by
  unfold updateAll
  obtain ⟨hnodup,hmem⟩ := visit.enumerates m
  rw [(foldl_updateEntry f hnodup (m,[])).2,List.nil_append,List.flatMap_eq_nil_iff]
  constructor
  · intro h k v hlookup
    have hkey : k∈m := Finmap.mem_iff.mpr ⟨v,hlookup⟩
    have hnil := h k ((hmem k).mpr hkey)
    unfold reports at hnil
    rw [hlookup] at hnil
    exact hnil
  · intro h k _
    unfold reports
    cases hlookup : m.lookup k with
    | none => rfl
    | some v => exact h k v hlookup

end StraceGo.MapVisits

import Mathlib.Algebra.BigOperators.Fin
import Mathlib.Algebra.BigOperators.Group.Finset.Piecewise
import Mathlib.Algebra.Order.BigOperators.Group.Finset

/-!
# Sums over chosen positions of a list

A loop that visits some positions of a list once each takes their weights out
of the total. What remains is the total over the positions not visited.
-/

namespace StraceGo.ListPositions

variable {α : Type}

/-- Weight of the entry at a position, zero outside the list. -/
def weightAt (f : α → ℕ) (xs : List α) (pos : ℕ) : ℕ := (xs[pos]?).elim 0 f

/-- The weights of all positions add up to the weights of all entries. -/
theorem sum_weightAt (f : α → ℕ) (xs : List α) :
    ∑ pos∈Finset.range xs.length, weightAt f xs pos=(xs.map f).sum := by
  rw [Finset.sum_range,←List.sum_ofFn]
  congr 1
  apply List.ext_getElem
  · simp
  · intro pos _ hpos
    rw [List.length_map] at hpos
    rw [List.getElem_map,List.getElem_ofFn,weightAt,List.getElem?_eq_getElem hpos]
    rfl

/-- Visited positions, each once, as a sum over all positions. -/
theorem sum_visited {visited : List ℕ} {size : ℕ} (w : ℕ → ℕ) (hnodup : visited.Nodup)
    (hlt : ∀ pos∈visited, pos < size) :
    (visited.map w).sum=∑ pos∈Finset.range size, if pos∈visited then w pos else 0 := by
  rw [←List.sum_toFinset w hnodup]
  have hmem : ∀ pos∈Finset.range size, (if pos∈visited then w pos else 0)=
      if pos∈visited.toFinset then w pos else 0 := by
    intro pos _
    simp only [List.mem_toFinset]
  rw [Finset.sum_congr rfl hmem,Finset.sum_ite_mem,Finset.inter_eq_right.mpr]
  intro pos hpos
  exact Finset.mem_range.mpr (hlt pos (List.mem_toFinset.mp hpos))

/-- Visited positions weigh no more than the whole list. -/
theorem sum_visited_le (f : α → ℕ) {xs : List α} {visited : List ℕ} (hnodup : visited.Nodup)
    (hlt : ∀ pos∈visited, pos < xs.length) :
    (visited.map (weightAt f xs)).sum ≤ (xs.map f).sum := by
  rw [sum_visited _ hnodup hlt,←sum_weightAt]
  refine Finset.sum_le_sum (fun pos _ => ?_)
  split_ifs
  · exact Nat.le_refl _
  · exact Nat.zero_le _

/-- Weights of the kept entries as a conditional sum. -/
theorem sum_filter (f : α → ℕ) (keep : α → Bool) (xs : List α) :
    ((xs.filter keep).map f).sum=(xs.map (fun x => if keep x then f x else 0)).sum := by
  induction xs with
  | nil => rfl
  | cons x xs ih =>
    rw [List.filter_cons,List.map_cons,List.sum_cons,←ih]
    by_cases hkeep : keep x=true
    · rw [if_pos hkeep,if_pos hkeep,List.map_cons,List.sum_cons]
    · rw [if_neg hkeep,if_neg hkeep,Nat.zero_add]

/-- When the visited positions are the weighty entries that are not kept, the
kept entries make up the rest of the total. -/
theorem sum_visited_add_kept (f : α → ℕ) (keep : α → Bool) {xs : List α} {visited : List ℕ}
    (hnodup : visited.Nodup) (hlt : ∀ pos∈visited, pos < xs.length)
    (hvisited : ∀ pos x, xs[pos]?=some x → f x≠0 → (pos∈visited ↔ keep x=false)) :
    (visited.map (weightAt f xs)).sum+((xs.filter keep).map f).sum=(xs.map f).sum := by
  rw [sum_filter,sum_visited _ hnodup hlt,←sum_weightAt,←sum_weightAt,←Finset.sum_add_distrib]
  refine Finset.sum_congr rfl (fun pos hpos => ?_)
  obtain ⟨x,hget⟩ : ∃ x, xs[pos]?=some x :=
    ⟨_,List.getElem?_eq_getElem (Finset.mem_range.mp hpos)⟩
  unfold weightAt
  rw [hget]
  dsimp only [Option.elim_some]
  by_cases hzero : f x=0
  · rw [hzero]
    split_ifs <;> rfl
  · have hiff := hvisited pos x hget hzero
    by_cases hkeep : keep x=true
    · rw [if_neg (fun h => by simp [hiff.mp h] at hkeep),if_pos hkeep,Nat.zero_add]
    · rw [if_pos (hiff.mpr (by simpa using hkeep)),if_neg hkeep,Nat.add_zero]

end StraceGo.ListPositions

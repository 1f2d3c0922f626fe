import Mathlib.Order.Interval.Finset.Nat
import Mathlib.Data.UInt

/-!
# Points of closed intervals of words

A closed interval of 64-bit words is identified with the multiset of its
points, so that cutting one point out of an interval is a removal from a
multiset, whichever of the four shapes the remainder takes. The second half
relates the cyclic distance to intervals: the words reached by fewer steps
from `e` than `s` are one interval, or two when the walk wraps.
-/

namespace StraceGo.IntervalPoints

/-- Value of a literal that fits the word. -/
theorem toNat_ofNat_word {n : ℕ} (h : n < 2^64) : (UInt64.ofNat n).toNat=n := by
  rw [UInt64.toNat_ofNat',Nat.mod_eq_of_lt h]

/-- Points of the closed interval from `a` to `b`. -/
def points (a b : UInt64) : Multiset UInt64 :=
  (Finset.Icc a.toNat b.toNat).val.map UInt64.ofNat

theorem mem_points {a b n : UInt64} : n∈points a b ↔ a ≤ n ∧ n ≤ b := by
  rw [points,Multiset.mem_map,UInt64.le_iff_toNat_le,UInt64.le_iff_toNat_le]
  constructor
  · rintro ⟨m,hm,rfl⟩
    rw [Finset.mem_val,Finset.mem_Icc] at hm
    have hb := b.toNat_lt
    rw [toNat_ofNat_word (by omega)]
    exact hm
  · intro hn
    exact ⟨n.toNat,Finset.mem_Icc.mpr hn,UInt64.ofNat_toNat⟩

theorem nodup_points (a b : UInt64) : (points a b).Nodup := by
  refine Multiset.Nodup.map_on ?_ (Finset.Icc a.toNat b.toNat).nodup
  intro x hx y hy hxy
  rw [Finset.mem_val,Finset.mem_Icc] at hx hy
  have hb := b.toNat_lt
  have htoNat := congrArg UInt64.toNat hxy
  rw [toNat_ofNat_word (by omega),toNat_ofNat_word (by omega)] at htoNat
  exact htoNat

/-- A nonempty interval has its length in points. -/
theorem card_points (a b : UInt64) : (points a b).card=b.toNat+1-a.toNat := by
  rw [points,Multiset.card_map,Finset.card_val,Nat.card_Icc]

/-- A one point interval. -/
theorem points_self (a : UInt64) : points a a={a} := by
  rw [points,Finset.Icc_self,Finset.singleton_val,Multiset.map_singleton,UInt64.ofNat_toNat]

/-- An interval is another one with a further point if it has these points. -/
theorem points_eq_cons {a b c d x : UInt64} (hx : x∉points c d)
    (hmem : ∀ n, n∈points a b ↔ n=x ∨ n∈points c d) : points a b=x::ₘpoints c d := by
  refine (Multiset.Nodup.ext (nodup_points a b) ?_).mpr fun n => ?_
  · exact Multiset.nodup_cons.mpr ⟨hx,nodup_points _ _⟩
  · rw [Multiset.mem_cons]
    exact hmem n

/-- Cutting the first point of an interval with more than one. -/
theorem points_cut_first {a b : UInt64} (h : a < b) : points a b=a::ₘpoints (a+1) b := by
  refine points_eq_cons ?_ fun n => ?_
  · rw [mem_points]
    grind
  · rw [mem_points,mem_points]
    grind

/-- Cutting the last point of an interval with more than one. -/
theorem points_cut_last {a b : UInt64} (h : a < b) : points a b=b::ₘpoints a (b-1) := by
  refine points_eq_cons ?_ fun n => ?_
  · rw [mem_points]
    grind
  · rw [mem_points,mem_points]
    grind

/-- Cutting an interior point leaves two intervals. -/
theorem points_cut_inside {a s b : UInt64} (ha : a < s) (hb : s < b) :
    points a b=s::ₘ(points a (s-1)+points (s+1) b) := by
  refine (Multiset.Nodup.ext (nodup_points a b) ?_).mpr ?_
  · refine Multiset.nodup_cons.mpr ⟨?_,?_⟩
    · rw [Multiset.mem_add,mem_points,mem_points]
      grind
    · refine Multiset.nodup_add.mpr ⟨nodup_points _ _,nodup_points _ _,?_⟩
      rw [Multiset.disjoint_left]
      intro n hn
      rw [mem_points] at hn ⊢
      grind
  · intro n
    rw [Multiset.mem_cons,Multiset.mem_add,mem_points,mem_points,mem_points]
    grind

/-- Value of a cyclic difference. -/
theorem toNat_sub_word (a b : UInt64) :
    (a-b).toNat=if b.toNat ≤ a.toNat then a.toNat-b.toNat else a.toNat+2^64-b.toNat := by
  have ha := a.toNat_lt
  have hb := b.toNat_lt
  rw [UInt64.toNat_sub]
  split_ifs <;> omega

/-- Value of a cyclic sum. -/
theorem toNat_add_word (a b : UInt64) :
    (a+b).toNat=if a.toNat+b.toNat < 2^64 then a.toNat+b.toNat else a.toNat+b.toNat-2^64 := by
  have ha := a.toNat_lt
  have hb := b.toNat_lt
  rw [UInt64.toNat_add]
  split_ifs <;> omega

/-- Value of the predecessor of a nonzero word. -/
theorem toNat_pred_word {a : UInt64} (h : a≠0) : (a-1).toNat+1=a.toNat := by
  have hpos : a.toNat≠0 := fun hzero => h (UInt64.toNat_inj.mp hzero)
  have hone : (1 : UInt64).toNat=1 := rfl
  rw [toNat_sub_word,if_pos (by omega)]
  omega

/-- Words passed on the way up from `e` to just below `s`, cyclically. -/
def walk (e s : UInt64) : Multiset UInt64 :=
  if e ≤ s-1 then points e (s-1) else points e 0xffffffffffffffff+points 0 (s-1)

/-- The passed words are the ones nearer to the start than the end is. -/
theorem mem_walk {e s n : UInt64} (hne : s≠e) : n∈walk e s ↔ n-e < s-e := by
  have hdiff : s.toNat≠e.toNat := fun h => hne (UInt64.toNat_inj.mp h)
  have hs := s.toNat_lt
  have he := e.toNat_lt
  have hn := n.toNat_lt
  have hlast := toNat_sub_word s 1
  have hmax : (0xffffffffffffffff : UInt64).toNat=2^64-1 := rfl
  have hone : (1 : UInt64).toNat=1 := rfl
  have hzero : (0 : UInt64).toNat=0 := rfl
  rw [UInt64.lt_iff_toNat_lt,toNat_sub_word n e,toNat_sub_word s e]
  unfold walk
  split_ifs at hlast ⊢ with h
  all_goals
    rw [UInt64.le_iff_toNat_le] at h
    simp only [Multiset.mem_add,mem_points,UInt64.le_iff_toNat_le]
    omega

theorem nodup_walk (e s : UInt64) : (walk e s).Nodup := by
  unfold walk
  split_ifs with h
  · exact nodup_points _ _
  · refine Multiset.nodup_add.mpr ⟨nodup_points _ _,nodup_points _ _,?_⟩
    rw [Multiset.disjoint_left]
    intro n hn
    rw [mem_points] at hn ⊢
    grind

/-- The walk passes as many words as the cyclic distance. -/
theorem card_walk {e s : UInt64} (hne : s≠e) : (walk e s).card=(s-e).toNat := by
  have hs := s.toNat_lt
  have he := e.toNat_lt
  have hdiff : s.toNat≠e.toNat := fun h => hne (UInt64.toNat_inj.mp h)
  have hlast := toNat_sub_word s 1
  have hmax : (0xffffffffffffffff : UInt64).toNat=2^64-1 := rfl
  have hone : (1 : UInt64).toNat=1 := rfl
  have hzero : (0 : UInt64).toNat=0 := rfl
  rw [toNat_sub_word]
  unfold walk
  split_ifs at hlast ⊢ with h
  all_goals
    rw [UInt64.le_iff_toNat_le] at h
    simp only [Multiset.card_add,card_points]
    omega

end StraceGo.IntervalPoints

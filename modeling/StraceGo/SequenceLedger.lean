import StraceGo.IntervalPoints
import Mathlib.Algebra.BigOperators.Group.Multiset.Basic
import Mathlib.Algebra.BigOperators.Group.Finset.Piecewise
import Mathlib.Algebra.BigOperators.Fin

/-!
# Ledgers of missing sequence numbers

Several sources number their messages with 64-bit words and a receiver keeps
a ledger of what it has not seen. The ledger holds one point for every missing
number, tagged with its source and with the jump that skipped it, a balance
for every jump, two saturating word counters, and the number expected next.

A delivery is the next number, a forward jump, a late number, or neither. The
balance and counter invariants hold along every run. That the points are
exactly the numbers skipped and not delivered since needs that no delivery
advances over a number that is still missing.
-/

namespace StraceGo.SequenceLedger

open IntervalPoints

variable {K : Type}

/-- Forward distances below this bound are jumps; all others are late. -/
def forwardLimit : UInt64 := 0x8000000000000000

/-- A source and the number it delivers. -/
abbrev Delivery (K : Type) : Type := K×UInt64

/-- A missing number with its source and the jump that skipped it. -/
abbrev Point (K : Type) : Type := K×Option ℕ×UInt64

/-- The source and number of a point. -/
def Point.key (p : Point K) : Delivery K := (p.1,p.2.2)

/-- What a receiver remembers about missing numbers. -/
structure Ledger (K : Type) where
  /-- Missing numbers. -/
  points : Multiset (Point K)
  /-- Numbers still missing from each jump. -/
  remaining : List UInt64
  /-- Counter of missing numbers. -/
  lost : UInt64
  /-- Counter of unresolved jumps. -/
  gaps : UInt64
  /-- Number expected next from each source. -/
  expected : K → UInt64

/-- Nothing delivered yet. -/
def Ledger.initial : Ledger K := ⟨0,[],0,0,fun _ => 1⟩

/-- Points of the jump from `e` to `s`. -/
def jumpPoints (k : K) (ref : ℕ) (e s : UInt64) : Multiset (Point K) :=
  (walk e s).map (fun n => (k,some ref,n))

/-- One delivery. -/
inductive Step [DecidableEq K] (d : Delivery K) (l : Ledger K) : Ledger K → Prop where
  | next (h : d.2=l.expected d.1) :
      Step d l {l with expected := Function.update l.expected d.1 (d.2+1)}
  | jump (hne : d.2≠l.expected d.1) (h : d.2-l.expected d.1 < forwardLimit) :
      Step d l
        {points := l.points+jumpPoints d.1 l.remaining.length (l.expected d.1) d.2
         remaining := l.remaining ++ [d.2-l.expected d.1]
         lost := l.lost+(d.2-l.expected d.1)
         gaps := l.gaps+1
         expected := Function.update l.expected d.1 (d.2+1)}
  | late (h : ¬d.2-l.expected d.1 < forwardLimit) (ref : ℕ) (balance : UInt64)
      (rest : Multiset (Point K)) (hp : l.points=(d.1,some ref,d.2)::ₘrest)
      (hb : l.remaining[ref]?=some balance) (hne : balance≠0) :
      Step d l
        {points := rest
         remaining := l.remaining.set ref (balance-1)
         lost := if l.lost≠0 then l.lost-1 else l.lost
         gaps := if balance-1=0 ∧ l.gaps≠0 then l.gaps-1 else l.gaps
         expected := l.expected}
  | invalid (h : ¬d.2-l.expected d.1 < forwardLimit)
      (hp : ∀ group, (d.1,group,d.2)∉l.points) : Step d l l

/-- Ledgers reached by a history of deliveries. -/
inductive Run [DecidableEq K] : List (Delivery K) → Ledger K → Prop where
  | nil : Run [] Ledger.initial
  | snoc {run : List (Delivery K)} {d : Delivery K} {l l' : Ledger K} :
      Run run l → Step d l l' → Run (run ++ [d]) l'

/-- Points that belong to one jump. -/
def Ledger.charge (l : Ledger K) (ref : ℕ) : ℕ := l.points.countP (fun p => p.2.1=some ref)

/-- Jumps with a nonzero balance. -/
def openJumps (remaining : List UInt64) : ℕ := remaining.countP (fun r => r≠0)

/-- Balances agree with the points, and the counters never exceed them. -/
structure Sound (l : Ledger K) : Prop where
  /-- Every point names an allocated jump. -/
  owned : ∀ p∈l.points, ∃ ref < l.remaining.length, p.2.1=some ref
  /-- A balance counts the points of its jump. -/
  charged : ∀ ref balance, l.remaining[ref]?=some balance → balance.toNat=l.charge ref
  /-- The counter of missing numbers does not exceed them. -/
  lost_le : l.lost.toNat ≤ l.points.card
  /-- The counter of unresolved jumps does not exceed them. -/
  gaps_le : l.gaps.toNat ≤ openJumps l.remaining

/-- The counters are exact. -/
structure Exact (l : Ledger K) : Prop where
  lost_eq : l.lost.toNat=l.points.card
  gaps_eq : l.gaps.toNat=openJumps l.remaining

theorem sound_initial : Sound (Ledger.initial : Ledger K) where
  owned := by
    intro p hp
    exact absurd hp (Multiset.notMem_zero p)
  charged := by
    intro ref balance h
    simp [Ledger.initial] at h
  lost_le := Nat.le_refl 0
  gaps_le := Nat.le_refl 0

theorem exact_initial : Exact (Ledger.initial : Ledger K) := ⟨rfl,rfl⟩

section Counting

/-- Appending a nonzero balance opens one more jump. -/
theorem openJumps_append {remaining : List UInt64} {balance : UInt64} (h : balance≠0) :
    openJumps (remaining ++ [balance])=openJumps remaining+1 := by
  simp [openJumps,h]

/-- Replacing a balance closes its jump exactly when the new one is zero. -/
theorem openJumps_set {remaining : List UInt64} {ref : ℕ} {balance : UInt64} (new : UInt64)
    (hb : remaining[ref]?=some balance) (hne : balance≠0) :
    openJumps (remaining.set ref new)+1=openJumps remaining+if new=0 then 0 else 1 := by
  induction remaining generalizing ref with
  | nil => simp at hb
  | cons head tail ih =>
    cases ref with
    | zero =>
      simp only [List.getElem?_cons_zero,Option.some.injEq] at hb
      subst hb
      simp only [openJumps,List.set_cons_zero,List.countP_cons,hne,ne_eq,not_false_eq_true,
        decide_true,if_true]
      by_cases hnew : new=0 <;> simp [hnew]
    | succ ref =>
      simp only [List.getElem?_cons_succ] at hb
      have htail := ih hb
      simp only [openJumps,List.set_cons_succ,List.countP_cons] at htail ⊢
      omega

/-- A list of jumps with a nonzero balance has at least one open jump. -/
theorem openJumps_pos {remaining : List UInt64} {ref : ℕ} {balance : UInt64}
    (hb : remaining[ref]?=some balance) (hne : balance≠0) : 0 < openJumps remaining := by
  rw [openJumps,List.countP_pos_iff]
  exact ⟨balance,List.mem_of_getElem? hb,by simpa using hne⟩

/-- Balances that agree with the points add up to them. -/
theorem card_eq_sum_charge {points : Multiset (Point K)} {size : ℕ}
    (owned : ∀ p∈points, ∃ ref < size, p.2.1=some ref) :
    points.card=∑ ref∈Finset.range size, points.countP (fun p => p.2.1=some ref) := by
  induction points using Multiset.induction_on with
  | empty => simp
  | cons p rest ih =>
    obtain ⟨ref,href,hgroup⟩ := owned p (Multiset.mem_cons_self p rest)
    have hrest := ih (fun q hq => owned q (Multiset.mem_cons_of_mem hq))
    simp only [Multiset.countP_cons,hgroup,Option.some.injEq,Finset.sum_add_distrib]
    rw [Multiset.card_cons,hrest,Finset.sum_ite_eq]
    rw [if_pos (Finset.mem_range.mpr href)]

/-- The points of a jump number its distance. -/
theorem card_jumpPoints (k : K) (ref : ℕ) {e s : UInt64} (hne : s≠e) :
    (jumpPoints k ref e s).card=(s-e).toNat := by
  rw [jumpPoints,Multiset.card_map,card_walk hne]

/-- The points of a jump are charged to it alone. -/
theorem countP_jumpPoints (k : K) (ref group : ℕ) {e s : UInt64} (hne : s≠e) :
    (jumpPoints k ref e s).countP (fun p => p.2.1=some group)=
      if group=ref then (s-e).toNat else 0 := by
  split_ifs with h
  · rw [Multiset.countP_eq_card.mpr,card_jumpPoints k ref hne]
    intro p hp
    obtain ⟨n,-,rfl⟩ := Multiset.mem_map.mp hp
    rw [h]
  · rw [Multiset.countP_eq_zero]
    intro p hp
    obtain ⟨n,-,rfl⟩ := Multiset.mem_map.mp hp
    simpa using fun heq => h heq.symm

/-- A jump of the receiver's window is not empty. -/
theorem distance_ne_zero {e s : UInt64} (hne : s≠e) : s-e≠0 := by
  intro h
  exact hne (sub_eq_zero.mp h)

end Counting

section Preservation

variable {d : Delivery K} {l l' : Ledger K}

/-- A jump not yet allocated has no points. -/
theorem Sound.charge_length (hs : Sound l) : l.charge l.remaining.length=0 := by
  rw [Ledger.charge,Multiset.countP_eq_zero]
  intro p hp hgroup
  obtain ⟨ref,href,hown⟩ := hs.owned p hp
  rw [hown,Option.some.injEq] at hgroup
  omega

/-- The balances add up to the points. -/
theorem Sound.sum_remaining (hs : Sound l) :
    (l.remaining.map UInt64.toNat).sum=l.points.card := by
  rw [card_eq_sum_charge hs.owned,Finset.sum_range,←List.sum_ofFn]
  congr 1
  apply List.ext_getElem
  · simp
  · intro ref href _
    rw [List.length_map] at href
    rw [List.getElem_map,List.getElem_ofFn]
    exact hs.charged ref _ (List.getElem?_eq_getElem href)

/-- There are no more open jumps than points. -/
theorem Sound.openJumps_le (hs : Sound l) : openJumps l.remaining ≤ l.points.card := by
  rw [←hs.sum_remaining]
  generalize l.remaining=remaining
  induction remaining with
  | nil => exact Nat.le_refl 0
  | cons balance rest ih =>
    rw [List.map_cons,List.sum_cons,openJumps,List.countP_cons]
    rw [openJumps] at ih
    by_cases hzero : balance=0
    · rw [hzero]
      simpa using ih
    · have hpred := toNat_pred_word hzero
      rw [if_pos (by simpa using hzero)]
      omega

variable [DecidableEq K]

/-- Every delivery keeps the balances and the counter bounds. -/
theorem Step.sound (hs : Sound l) (h : Step d l l') : Sound l' := by
  cases h with
  | next h => exact ⟨hs.owned,hs.charged,hs.lost_le,hs.gaps_le⟩
  | jump hne h =>
    refine ⟨?_,?_,?_,?_⟩
    · intro p hp
      rw [List.length_append,List.length_singleton]
      rcases Multiset.mem_add.mp hp with hold | hnew
      · obtain ⟨ref,href,hown⟩ := hs.owned p hold
        exact ⟨ref,by omega,hown⟩
      · obtain ⟨n,-,rfl⟩ := Multiset.mem_map.mp hnew
        exact ⟨l.remaining.length,by omega,rfl⟩
    · intro ref balance hb
      dsimp only at hb
      rw [Ledger.charge,Multiset.countP_add,countP_jumpPoints _ _ _ hne]
      by_cases href : ref < l.remaining.length
      · rw [List.getElem?_append_left href] at hb
        rw [if_neg (by omega),Nat.add_zero]
        exact hs.charged ref balance hb
      · rw [List.getElem?_append_right (by omega),List.getElem?_singleton] at hb
        split_ifs at hb with hzero
        obtain rfl : ref=l.remaining.length := by omega
        rw [Option.some.injEq] at hb
        rw [if_pos rfl,←hb]
        have hcharge := hs.charge_length
        rw [Ledger.charge] at hcharge
        rw [hcharge,Nat.zero_add]
    · rw [Multiset.card_add,card_jumpPoints _ _ hne,UInt64.toNat_add]
      have hle := hs.lost_le
      have hmod := Nat.mod_le (l.lost.toNat+(d.2-l.expected d.1).toNat) (2^64)
      omega
    · rw [openJumps_append (distance_ne_zero hne),UInt64.toNat_add]
      have hle := hs.gaps_le
      have hmod := Nat.mod_le (l.gaps.toNat+(1 : UInt64).toNat) (2^64)
      have hone : (1 : UInt64).toNat=1 := rfl
      omega
  | late h ref balance rest hp hb hne =>
    have hcharge : ∀ group, l.charge group=
        rest.countP (fun p => p.2.1=some group)+if group=ref then 1 else 0 := by
      intro group
      rw [Ledger.charge,hp,Multiset.countP_cons]
      simp only [Option.some.injEq,eq_comm]
    have hbalance := hs.charged ref balance hb
    rw [hcharge ref,if_pos rfl] at hbalance
    refine ⟨?_,?_,?_,?_⟩
    · intro p hmem
      rw [List.length_set]
      exact hs.owned p (hp ▸ Multiset.mem_cons_of_mem hmem)
    · intro group b hgroup
      dsimp only at hgroup
      rw [Ledger.charge]
      by_cases hsame : group=ref
      · subst hsame
        rw [List.getElem?_set_self (List.getElem?_eq_some_iff.mp hb).1,Option.some.injEq] at hgroup
        have hpred := toNat_pred_word hne
        rw [←hgroup]
        dsimp only
        omega
      · rw [List.getElem?_set_ne (by omega)] at hgroup
        have hother := hs.charged group b hgroup
        rw [hcharge group,if_neg hsame] at hother
        exact hother
    · have hle := hs.lost_le
      rw [hp,Multiset.card_cons] at hle
      dsimp only
      split_ifs with hzero
      · have hpred := toNat_pred_word hzero
        omega
      · rw [not_not.mp hzero]
        exact Nat.zero_le _
    · have hle := hs.gaps_le
      have hset := openJumps_set (balance-1) hb hne
      dsimp only
      by_cases hzero : balance-1=0
      · rw [if_pos hzero] at hset
        by_cases hgaps : l.gaps=0
        · rw [if_neg (by simp [hgaps]),hgaps]
          exact Nat.zero_le _
        · have hpred := toNat_pred_word hgaps
          rw [if_pos ⟨hzero,hgaps⟩]
          omega
      · rw [if_neg hzero] at hset
        rw [if_neg (fun h => hzero h.1)]
        omega
  | invalid h hp => exact hs

/-- The counters stay exact while the points fit the counter. -/
theorem Step.exact (hs : Sound l) (hx : Exact l) (h : Step d l l')
    (hfit : l'.points.card < 2^64) : Exact l' := by
  have hopen := (h.sound hs).openJumps_le
  cases h with
  | next h => exact ⟨hx.lost_eq,hx.gaps_eq⟩
  | jump hne h =>
    have hlost := hx.lost_eq
    have hgaps := hx.gaps_eq
    have hone : (1 : UInt64).toNat=1 := rfl
    dsimp only at hfit hopen
    rw [Multiset.card_add,card_jumpPoints _ _ hne] at hfit hopen
    rw [openJumps_append (distance_ne_zero hne)] at hopen
    constructor
    · rw [Multiset.card_add,card_jumpPoints _ _ hne,toNat_add_word,if_pos (by omega)]
      omega
    · rw [openJumps_append (distance_ne_zero hne),toNat_add_word,if_pos (by omega)]
      omega
  | late h ref balance rest hp hb hne =>
    have hlost := hx.lost_eq
    have hgaps := hx.gaps_eq
    have hpos := openJumps_pos hb hne
    have hset := openJumps_set (balance-1) hb hne
    rw [hp,Multiset.card_cons] at hlost
    have hlost_ne : l.lost≠0 := by
      intro hzero
      rw [hzero,UInt64.toNat_zero] at hlost
      omega
    have hgaps_ne : l.gaps≠0 := by
      intro hzero
      rw [hzero,UInt64.toNat_zero] at hgaps
      omega
    have hlost_pred := toNat_pred_word hlost_ne
    have hgaps_pred := toNat_pred_word hgaps_ne
    constructor
    · dsimp only
      rw [if_pos hlost_ne]
      omega
    · dsimp only
      by_cases hzero : balance-1=0
      · rw [if_pos hzero] at hset
        rw [if_pos ⟨hzero,hgaps_ne⟩]
        omega
      · rw [if_neg hzero] at hset
        rw [if_neg (fun h => hzero h.1)]
        omega
  | invalid h hp => exact hx

end Preservation

end StraceGo.SequenceLedger

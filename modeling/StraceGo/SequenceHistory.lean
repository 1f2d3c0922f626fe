import StraceGo.SequenceLedger

/-!
# What a ledger says about its delivery history

The expected number and the missing numbers of a source are read off the
history of deliveries alone: a number is missing when an accepted jump passed
it and it was not delivered since. A ledger run agrees with that reading as
long as no accepted delivery laps a missing number. Deliveries that stay in a
half-word window around the natural high water never lap, and then missing
means below the high water and not delivered.
-/

namespace StraceGo.SequenceHistory

open IntervalPoints SequenceLedger

variable {K : Type} [DecidableEq K]

/-- Number expected next from `k` after a history. -/
def expectedAfter (k : K) (run : List (Delivery K)) : UInt64 :=
  run.foldl (fun e d => if d.1=k ∧ d.2-e < forwardLimit then d.2+1 else e) 1

/-- The delivery `d`, arriving after `before`, jumps over `n`. -/
def SkippedBy (k : K) (before : List (Delivery K)) (d : Delivery K) (n : UInt64) : Prop :=
  d.1=k ∧ d.2-expectedAfter k before < forwardLimit ∧
    n-expectedAfter k before < d.2-expectedAfter k before

/-- An accepted jump passed `n`, and `n` was not delivered since. -/
def Missing (k : K) (run : List (Delivery K)) (n : UInt64) : Prop :=
  ∃ before d since, run=before ++ d::since ∧ SkippedBy k before d n ∧ (k,n)∉since

/-- No accepted delivery advances over or onto a number still missing. -/
def NoLap (run : List (Delivery K)) : Prop :=
  ∀ before d since, run=before ++ d::since → d.2-expectedAfter d.1 before < forwardLimit →
    ∀ n, Missing d.1 before n →
      d.2-expectedAfter d.1 before < n-expectedAfter d.1 before

/-- Size of the jump made by a delivery after a history. -/
def jumpSize (before : List (Delivery K)) (d : Delivery K) : ℕ :=
  if d.2-expectedAfter d.1 before < forwardLimit then (d.2-expectedAfter d.1 before).toNat else 0

/-- Total size of the forward jumps of a history. -/
def jumpTotal (run : List (Delivery K)) : ℕ :=
  (run.foldl (fun acc d => (acc.1 ++ [d],acc.2+jumpSize acc.1 d))
    (([] : List (Delivery K)),0)).2

/-- Largest number delivered by a source, zero when there is none. -/
def highWater (k : K) (run : List (Delivery K)) : ℕ :=
  run.foldl (fun high d => if d.1=k then max high d.2.toNat else high) 0

/-- Every delivery lies in the half-word window around its high water. -/
def Windowed (run : List (Delivery K)) : Prop :=
  ∀ before d since, run=before ++ d::since → 1 ≤ d.2.toNat ∧
    d.2.toNat ≤ highWater d.1 before+2^63 ∧ highWater d.1 before+1 ≤ d.2.toNat+2^63

section Snoc

variable (k : K) (run : List (Delivery K)) (d : Delivery K)

/-- An accepted delivery moves the expected number of its own source. -/
theorem expectedAfter_snoc : expectedAfter k (run ++ [d])=
    if d.1=k ∧ d.2-expectedAfter k run < forwardLimit then d.2+1 else expectedAfter k run := by
  rw [expectedAfter,List.foldl_append]
  rfl

theorem highWater_snoc : highWater k (run ++ [d])=
    if d.1=k then max (highWater k run) d.2.toNat else highWater k run := by
  rw [highWater,List.foldl_append]
  rfl

omit [DecidableEq K] in
/-- Splitting a history at its last delivery or before it. -/
theorem snoc_split {before since : List (Delivery K)} {x : Delivery K}
    (h : run ++ [d]=before ++ x::since) :
    (before=run ∧ x=d ∧ since=[]) ∨ ∃ rest, since=rest ++ [d] ∧ run=before ++ x::rest := by
  rcases List.eq_nil_or_concat since with rfl | ⟨rest,last,rfl⟩
  · obtain ⟨hrun,hlast⟩ := List.append_inj' h rfl
    exact .inl ⟨hrun.symm,(List.cons.inj hlast).1.symm,rfl⟩
  · rw [List.concat_eq_append,←List.cons_append,←List.append_assoc] at h
    obtain ⟨hrun,hlast⟩ := List.append_inj' h rfl
    obtain rfl : d=last := (List.cons.inj hlast).1
    exact .inr ⟨rest,List.concat_eq_append,hrun⟩

/-- A delivery adds the numbers it skips and takes out its own. -/
theorem missing_snoc (n : UInt64) : Missing k (run ++ [d]) n ↔
    SkippedBy k run d n ∨ (Missing k run n ∧ d≠(k,n)) := by
  constructor
  · rintro ⟨before,x,since,hsplit,hskip,hnot⟩
    rcases snoc_split run d hsplit with ⟨rfl,rfl,-⟩ | ⟨rest,rfl,rfl⟩
    · exact .inl hskip
    · rw [List.mem_append,List.mem_singleton,not_or] at hnot
      exact .inr ⟨⟨before,x,rest,rfl,hskip,hnot.1⟩,Ne.symm hnot.2⟩
  · rintro (hskip | ⟨⟨before,x,rest,rfl,hskip,hnot⟩,hne⟩)
    · exact ⟨run,d,[],rfl,hskip,List.not_mem_nil⟩
    · refine ⟨before,x,rest ++ [d],by simp,hskip,?_⟩
      rw [List.mem_append,List.mem_singleton,not_or]
      exact ⟨hnot,Ne.symm hne⟩

theorem not_missing_nil (n : UInt64) : ¬Missing k [] n := by
  rintro ⟨before,x,since,hsplit,-,-⟩
  simp at hsplit

/-- The total grows by the size of the last jump. -/
theorem jumpTotal_snoc : jumpTotal (run ++ [d])=jumpTotal run+jumpSize run d := by
  have hhistory : ∀ run : List (Delivery K), (run.foldl (fun acc d =>
      (acc.1 ++ [d],acc.2+jumpSize acc.1 d)) (([] : List (Delivery K)),0)).1=run := by
    intro run
    induction run using List.reverseRecOn with
    | nil => rfl
    | append_singleton run d ih =>
      rw [List.foldl_append,List.foldl_cons,List.foldl_nil]
      dsimp only
      rw [ih]
  rw [jumpTotal,List.foldl_append,List.foldl_cons,List.foldl_nil]
  dsimp only
  rw [hhistory]
  rfl

variable {run d}

theorem NoLap.of_snoc (h : NoLap (run ++ [d])) : NoLap run := by
  intro before x since hsplit
  exact h before x (since ++ [d]) (by rw [hsplit]; simp)

theorem Windowed.of_snoc (h : Windowed (run ++ [d])) : Windowed run := by
  intro before x since hsplit
  exact h before x (since ++ [d]) (by rw [hsplit]; simp)

end Snoc

section Runs

variable {run : List (Delivery K)} {l : Ledger K}

theorem Run.sound (hr : Run run l) : Sound l := by
  induction hr with
  | nil => exact sound_initial
  | snoc _ hstep ih => exact hstep.sound ih

/-- A ledger expects what the history says. -/
theorem Run.expected (hr : Run run l) (k : K) : l.expected k=expectedAfter k run := by
  induction hr with
  | nil => rfl
  | @snoc run d l l' _ hstep ih =>
    rw [expectedAfter_snoc,←ih]
    cases hstep with
    | next h =>
      by_cases hk : d.1=k
      · subst hk
        have hzero : d.2-l.expected d.1 < forwardLimit := by
          rw [h,sub_self]
          decide
        rw [if_pos ⟨rfl,hzero⟩]
        exact Function.update_self _ _ _
      · rw [if_neg (fun h => hk h.1)]
        exact Function.update_of_ne (Ne.symm hk) _ _
    | jump hne h =>
      by_cases hk : d.1=k
      · subst hk
        rw [if_pos ⟨rfl,h⟩]
        exact Function.update_self _ _ _
      · rw [if_neg (fun h => hk h.1)]
        exact Function.update_of_ne (Ne.symm hk) _ _
    | late h =>
      dsimp only
      rw [if_neg]
      rintro ⟨rfl,hlt⟩
      exact h hlt
    | invalid h =>
      rw [if_neg]
      rintro ⟨rfl,hlt⟩
      exact h hlt

/-- A run holds no more points than its jumps skipped. -/
theorem Run.card_le (hr : Run run l) : l.points.card ≤ jumpTotal run := by
  induction hr with
  | nil => exact Nat.le_refl 0
  | @snoc run d l l' hrun hstep ih =>
    rw [jumpTotal_snoc,jumpSize,←Run.expected hrun]
    cases hstep with
    | next h => exact Nat.le_add_right_of_le ih
    | jump hne h =>
      rw [if_pos h,Multiset.card_add,card_jumpPoints _ _ hne]
      omega
    | late h ref balance rest hp =>
      rw [hp,Multiset.card_cons] at ih
      dsimp only
      omega
    | invalid h => exact Nat.le_add_right_of_le ih

/-- Jumps that fit the counter keep both counters exact. -/
theorem Run.exact (hr : Run run l) (hfit : jumpTotal run < 2^64) : Exact l := by
  induction hr with
  | nil => exact exact_initial
  | @snoc run d l l' hrun hstep ih =>
    have hcard := Run.card_le (hrun.snoc hstep)
    rw [jumpTotal_snoc] at hfit hcard
    exact hstep.exact (Run.sound hrun) (ih (by omega)) (by omega)

/-- The points are the missing numbers, each held once. -/
structure Faithful (run : List (Delivery K)) (l : Ledger K) : Prop where
  /-- No number is held twice. -/
  nodup : (l.points.map Point.key).Nodup
  /-- A number is held exactly when the history misses it. -/
  missing : ∀ k n, (k,n)∈l.points.map Point.key ↔ Missing k run n

/-- A ledger that no delivery laps holds exactly the missing numbers. -/
theorem Run.faithful (hr : Run run l) (hlap : NoLap run) : Faithful run l := by
  induction hr with
  | nil =>
    refine ⟨Multiset.nodup_zero,?_⟩
    intro k n
    exact ⟨fun h => absurd h (Multiset.notMem_zero _),fun h => absurd h (not_missing_nil k n)⟩
  | @snoc run d l l' hrun hstep ih =>
    obtain ⟨hnodup,hmissing⟩ := ih hlap.of_snoc
    have hlast := hlap run d [] rfl
    have hexpected := Run.expected hrun
    cases hstep with
    | next h =>
      refine ⟨hnodup,?_⟩
      intro k n
      dsimp only
      rw [hmissing k n,missing_snoc]
      constructor
      · intro hm
        refine .inr ⟨hm,?_⟩
        rintro rfl
        have hlt := hlast (by rw [←hexpected,h,sub_self]; decide) n hm
        exact absurd hlt (UInt64.lt_irrefl _)
      · rintro (⟨hk,-,hlt⟩ | ⟨hm,-⟩)
        · subst hk
          rw [←hexpected,h,sub_self] at hlt
          exact absurd hlt (by simp)
        · exact hm
    | jump hne h =>
      rw [hexpected] at hne h
      have hnew : ∀ k n, (k,n)∈(jumpPoints d.1 l.remaining.length (l.expected d.1) d.2).map
          Point.key ↔ SkippedBy k run d n := by
        intro k n
        rw [hexpected,jumpPoints,Multiset.map_map,Multiset.mem_map]
        constructor
        · rintro ⟨m,hm,heq⟩
          obtain ⟨rfl,rfl⟩ := Prod.mk.inj heq
          exact ⟨rfl,h,(mem_walk hne).mp hm⟩
        · rintro ⟨rfl,-,hlt⟩
          exact ⟨n,(mem_walk hne).mpr hlt,rfl⟩
      constructor
      · dsimp only
        rw [Multiset.map_add]
        refine Multiset.nodup_add.mpr ⟨hnodup,?_,?_⟩
        · rw [jumpPoints,Multiset.map_map]
          exact (nodup_walk _ _).map (fun a b hab => (Prod.mk.inj hab).2)
        · rw [Multiset.disjoint_left]
          rintro ⟨k,n⟩ hold hadded
          obtain ⟨hk,-,hlt⟩ := (hnew k n).mp hadded
          subst hk
          have hgt := hlast h n ((hmissing _ _).mp hold)
          exact absurd hlt (UInt64.lt_asymm hgt)
      · intro k n
        dsimp only
        rw [Multiset.map_add,Multiset.mem_add,hnew,hmissing,missing_snoc]
        constructor
        · rintro (hm | hskip)
          · refine .inr ⟨hm,?_⟩
            rintro rfl
            exact absurd (hlast h n hm) (UInt64.lt_irrefl _)
          · exact .inl hskip
        · rintro (hskip | ⟨hm,-⟩)
          · exact .inr hskip
          · exact .inl hm
    | late h ref balance rest hp hb hne =>
      rw [hexpected] at h
      rw [hp,Multiset.map_cons] at hnodup hmissing
      obtain ⟨hfresh,hrest⟩ := Multiset.nodup_cons.mp hnodup
      refine ⟨hrest,?_⟩
      intro k n
      rw [missing_snoc,←hmissing,Multiset.mem_cons]
      constructor
      · intro hm
        refine .inr ⟨.inr hm,?_⟩
        rintro rfl
        exact hfresh hm
      · rintro (⟨hk,hlt,-⟩ | ⟨hsame | hm,hdiff⟩)
        · subst hk
          exact absurd hlt h
        · exact absurd hsame.symm hdiff
        · exact hm
    | invalid h hp =>
      rw [hexpected] at h
      refine ⟨hnodup,?_⟩
      intro k n
      rw [missing_snoc,hmissing]
      constructor
      · intro hm
        refine .inr ⟨hm,?_⟩
        rintro rfl
        obtain ⟨p,hmem,hkey⟩ := Multiset.mem_map.mp ((hmissing _ _).mpr hm)
        obtain ⟨rfl,rfl⟩ := Prod.mk.inj hkey
        exact hp p.2.1 hmem
      · rintro (⟨hk,hlt,-⟩ | ⟨hm,-⟩)
        · subst hk
          exact absurd hlt h
        · exact hm

end Runs

section Windows

variable {run : List (Delivery K)} {l : Ledger K}

/-- The high water is a delivered number. -/
theorem highWater_lt (k : K) (run : List (Delivery K)) : highWater k run < 2^64 := by
  induction run using List.reverseRecOn with
  | nil => exact Nat.two_pow_pos 64
  | append_singleton run d ih =>
    rw [highWater_snoc]
    have hd := d.2.toNat_lt
    split_ifs <;> omega

/-- Every delivered number is at most the high water. -/
theorem le_highWater {k : K} {n : UInt64} (h : (k,n)∈run) : n.toNat ≤ highWater k run := by
  induction run using List.reverseRecOn with
  | nil => exact absurd h List.not_mem_nil
  | append_singleton run d ih =>
    rw [highWater_snoc]
    rcases List.mem_append.mp h with hold | hlast
    · have hle := ih hold
      split_ifs <;> omega
    · rw [List.mem_singleton] at hlast
      rw [←hlast,if_pos rfl]
      exact le_max_right _ _

/-- A nonzero high water was delivered. -/
theorem exists_highWater {k : K} (h : highWater k run≠0) :
    ∃ n, (k,n)∈run ∧ n.toNat=highWater k run := by
  induction run using List.reverseRecOn with
  | nil => exact absurd rfl h
  | append_singleton run d ih =>
    rw [highWater_snoc] at h ⊢
    by_cases hd : d.1=k ∧ highWater k run ≤ d.2.toNat
    · rw [if_pos hd.1,max_eq_right hd.2]
      refine ⟨d.2,?_,rfl⟩
      rw [←hd.1]
      exact List.mem_append_right _ List.mem_cons_self
    · have hsame : (if d.1=k then max (highWater k run) d.2.toNat else highWater k run)=
          highWater k run := by
        split_ifs with hk
        · exact max_eq_left (Nat.le_of_not_le (fun hle => hd ⟨hk,hle⟩))
        · rfl
      rw [hsame] at h ⊢
      obtain ⟨n,hmem,hn⟩ := ih h
      exact ⟨n,List.mem_append_left _ hmem,hn⟩

/-- Cyclic distance to a number behind the expected one. -/
theorem behind_distance {e n : UInt64} {high : ℕ} (he : e.toNat=(high+1)%2^64)
    (hhigh : high < 2^64) (hn : n.toNat ≤ high) :
    (n-e).toNat+(high+1)=n.toNat+2^64 := by
  have hlt := n.toNat_lt
  rw [toNat_sub_word]
  split_ifs <;> omega

/-- Cyclic distance to a number ahead of the high water. -/
theorem ahead_distance {e n : UInt64} {high : ℕ} (he : e.toNat=(high+1)%2^64)
    (hn : high < n.toNat) : (n-e).toNat+(high+1)=n.toNat := by
  have hlt := n.toNat_lt
  rw [toNat_sub_word]
  split_ifs <;> omega

/-- In the window the expected number follows the high water, and a number
is missing exactly when it is below the high water and not delivered. -/
structure Natural (run : List (Delivery K)) : Prop where
  /-- The expected number is the successor of the high water. -/
  expected : ∀ k, (expectedAfter k run).toNat=(highWater k run+1)%2^64
  /-- The missing numbers are those below the high water not delivered. -/
  missing : ∀ k n, Missing k run n ↔
    1 ≤ n.toNat ∧ n.toNat ≤ highWater k run ∧ (k,n)∉run

/-- Inside the window a delivery is accepted exactly above the high water. -/
theorem accepted_iff {before : List (Delivery K)} {d : Delivery K} (hb : Natural before)
    (hahead : d.2.toNat ≤ highWater d.1 before+2^63)
    (hbehind : highWater d.1 before+1 ≤ d.2.toNat+2^63) :
    d.2-expectedAfter d.1 before < forwardLimit ↔ highWater d.1 before < d.2.toNat := by
  have hlimit : forwardLimit.toNat=2^63 := rfl
  have hhigh := highWater_lt d.1 before
  rw [UInt64.lt_iff_toNat_lt,hlimit]
  by_cases h : highWater d.1 before < d.2.toNat
  · have hdist := ahead_distance (hb.expected d.1) h
    exact ⟨fun _ => h,fun _ => by omega⟩
  · have hdist := behind_distance (hb.expected d.1) hhigh (by omega : d.2.toNat ≤ _)
    exact ⟨fun hlt => absurd hlt (by omega),fun hlt => absurd hlt h⟩

/-- Numbers skipped by an accepted delivery lie above the old high water. -/
theorem skippedBy_iff {before : List (Delivery K)} {d : Delivery K} {n : UInt64}
    (hb : Natural before) (hacc : highWater d.1 before < d.2.toNat) :
    n-expectedAfter d.1 before < d.2-expectedAfter d.1 before ↔
      highWater d.1 before < n.toNat ∧ n.toNat < d.2.toNat := by
  have hd := ahead_distance (hb.expected d.1) hacc
  have hhigh := highWater_lt d.1 before
  have hlt := d.2.toNat_lt
  rw [UInt64.lt_iff_toNat_lt]
  by_cases h : highWater d.1 before < n.toNat
  · have hn := ahead_distance (hb.expected d.1) h
    omega
  · have hn := behind_distance (hb.expected d.1) hhigh (by omega : n.toNat ≤ _)
    omega

/-- Numbers from the lower half of the word, zero excluded, are windowed. -/
theorem windowed_of_half (h : ∀ d∈run, 1 ≤ d.2 ∧ d.2 < forwardLimit) : Windowed run := by
  intro before d since hsplit
  have hlimit : forwardLimit.toNat=2^63 := rfl
  have hone : (1 : UInt64).toNat=1 := rfl
  obtain ⟨hpos,hlt⟩ := h d (by rw [hsplit]; simp)
  rw [UInt64.le_iff_toNat_le] at hpos
  rw [UInt64.lt_iff_toNat_lt] at hlt
  have hhigh : highWater d.1 before < 2^63 := by
    by_cases hzero : highWater d.1 before=0
    · omega
    obtain ⟨n,hmem,hn⟩ := exists_highWater hzero
    have hn' : n < forwardLimit := (h (d.1,n) (by rw [hsplit]; simp [hmem])).2
    rw [UInt64.lt_iff_toNat_lt] at hn'
    omega
  omega

/-- Windowed histories read as natural numbers. -/
theorem Windowed.natural (hw : Windowed run) : Natural run := by
  induction run using List.reverseRecOn with
  | nil =>
    refine ⟨fun k => rfl,?_⟩
    intro k n
    constructor
    · intro h
      exact absurd h (not_missing_nil k n)
    · rintro ⟨hone,hle,-⟩
      have hzero : highWater k ([] : List (Delivery K))=0 := rfl
      omega
  | append_singleton run d ih =>
    have hnat := ih hw.of_snoc
    obtain ⟨hone,hahead,hbehind⟩ := hw run d [] rfl
    have hacc := accepted_iff hnat hahead hbehind
    have hlt := d.2.toNat_lt
    constructor
    · intro k
      rw [expectedAfter_snoc,highWater_snoc]
      by_cases hk : d.1=k
      · subst hk
        rw [if_pos rfl]
        by_cases hgt : highWater d.1 run < d.2.toNat
        · rw [if_pos ⟨rfl,hacc.mpr hgt⟩,max_eq_right (by omega),UInt64.toNat_add]
          rfl
        · rw [if_neg (fun h => hgt (hacc.mp h.2)),max_eq_left (by omega)]
          exact hnat.expected d.1
      · rw [if_neg (fun h => hk h.1),if_neg hk]
        exact hnat.expected k
    · intro k n
      rw [missing_snoc,hnat.missing,highWater_snoc,List.mem_append,List.mem_singleton]
      by_cases hk : d.1=k
      · subst hk
        rw [if_pos rfl]
        have hskip : SkippedBy d.1 run d n ↔
            highWater d.1 run < d.2.toNat ∧ highWater d.1 run < n.toNat ∧ n.toNat < d.2.toNat := by
          rw [SkippedBy,hacc]
          constructor
          · rintro ⟨-,hgt,hn⟩
            exact ⟨hgt,(skippedBy_iff hnat hgt).mp hn⟩
          · rintro ⟨hgt,hn⟩
            exact ⟨rfl,hgt,(skippedBy_iff hnat hgt).mpr hn⟩
        have hsame : d=(d.1,n) ↔ n.toNat=d.2.toNat := by
          rw [UInt64.toNat_inj]
          exact ⟨fun h => (congrArg Prod.snd h).symm,fun h => Prod.ext rfl h.symm⟩
        have hdelivered : (d.1,n)∈run → n.toNat ≤ highWater d.1 run := le_highWater
        rw [hskip,eq_comm (a := (d.1,n)),ne_eq,hsame,le_max_iff,not_or]
        constructor
        · rintro (⟨hgt,hn,hlt⟩ | ⟨⟨hpos,hle,hnot⟩,hne⟩)
          · exact ⟨by omega,by omega,fun hmem => absurd (hdelivered hmem) (by omega),by omega⟩
          · exact ⟨hpos,.inl hle,hnot,hne⟩
        · rintro ⟨hpos,hle,hnot,hne⟩
          by_cases hn : n.toNat ≤ highWater d.1 run
          · exact .inr ⟨⟨hpos,hn,hnot⟩,hne⟩
          · exact .inl ⟨by omega,by omega,by omega⟩
      · rw [if_neg hk]
        have hdiff : d≠(k,n) := fun h => hk (congrArg Prod.fst h)
        constructor
        · rintro (⟨h,-⟩ | ⟨⟨hpos,hle,hnot⟩,-⟩)
          · exact absurd h hk
          · exact ⟨hpos,hle,not_or.mpr ⟨hnot,Ne.symm hdiff⟩⟩
        · rintro ⟨hpos,hle,hnot⟩
          exact .inr ⟨⟨hpos,hle,(not_or.mp hnot).1⟩,hdiff⟩

/-- Windowed histories never lap. -/
theorem Windowed.noLap (hw : Windowed run) : NoLap run := by
  intro before d since hsplit hacc n hm
  obtain ⟨hone,hahead,hbehind⟩ := hw before d since hsplit
  have hstarts : Windowed before := by
    intro before' x since' hsplit'
    exact hw before' x (since' ++ d::since) (by rw [hsplit,hsplit']; simp)
  have hnat := hstarts.natural
  have hgt := (accepted_iff hnat hahead hbehind).mp hacc
  have hle := ((hnat.missing _ _).mp hm).2.1
  have hd := ahead_distance (hnat.expected d.1) hgt
  have hn := behind_distance (hnat.expected d.1) (highWater_lt _ _) hle
  have hlt := d.2.toNat_lt
  rw [UInt64.lt_iff_toNat_lt]
  omega

/-- A delivery changes the total of the high waters at its own source only. -/
theorem sum_highWater_snoc (sources : Finset K) (run : List (Delivery K)) {d : Delivery K}
    (hd : d.1∈sources) :
    ∑ k∈sources, highWater k (run ++ [d])+highWater d.1 run=
      ∑ k∈sources, highWater k run+max (highWater d.1 run) d.2.toNat := by
  rw [←Finset.add_sum_erase sources (fun k => highWater k (run ++ [d])) hd,
    ←Finset.add_sum_erase sources (fun k => highWater k run) hd]
  have hother : ∑ k∈sources.erase d.1, highWater k (run ++ [d])=
      ∑ k∈sources.erase d.1, highWater k run := by
    refine Finset.sum_congr rfl (fun k hk => ?_)
    rw [highWater_snoc,if_neg (Ne.symm (Finset.ne_of_mem_erase hk))]
  rw [hother,highWater_snoc,if_pos rfl]
  omega

/-- The jumps of a windowed history skip no more than the high waters. -/
theorem jumpTotal_le_sum_highWater (hw : Windowed run) (sources : Finset K)
    (hsources : ∀ d∈run, d.1∈sources) : jumpTotal run ≤ ∑ k∈sources, highWater k run := by
  induction run using List.reverseRecOn with
  | nil => exact Nat.zero_le _
  | append_singleton run d ih =>
    have hprev := hw.of_snoc
    have hnat := hprev.natural
    obtain ⟨hone,hahead,hbehind⟩ := hw run d [] rfl
    have hacc := accepted_iff hnat hahead hbehind
    have hmem := hsources d (List.mem_append_right _ List.mem_cons_self)
    have hold := ih hprev (fun x hx => hsources x (List.mem_append_left _ hx))
    have hsum := sum_highWater_snoc sources run hmem
    rw [jumpTotal_snoc,jumpSize]
    split_ifs with h
    · have hgt := hacc.mp h
      have hdist := ahead_distance (hnat.expected d.1) hgt
      omega
    · omega

/-- Of the numbers up to the high waters, every one is delivered or missing. -/
theorem Run.conservation (hr : Run run l) (hw : Windowed run) (hnodup : run.Nodup)
    (sources : Finset K) (hsources : ∀ d∈run, d.1∈sources) :
    l.points.card+run.length=∑ k∈sources, highWater k run := by
  induction hr with
  | nil =>
    have hzero : ∑ k∈sources, highWater k ([] : List (Delivery K))=0 :=
      Finset.sum_eq_zero (fun k _ => rfl)
    rw [hzero]
    rfl
  | @snoc run d l l' hrun hstep ih =>
    have hprev := hw.of_snoc
    have hnat := hprev.natural
    obtain ⟨hone,hahead,hbehind⟩ := hw run d [] rfl
    have hacc := accepted_iff hnat hahead hbehind
    have hmem := hsources d (List.mem_append_right _ List.mem_cons_self)
    have hfresh : d∉run := by
      intro h
      exact (List.nodup_append.mp hnodup).2.2 d h d List.mem_cons_self rfl
    have hold := ih hprev hnodup.of_append_left
      (fun x hx => hsources x (List.mem_append_left _ hx))
    have hsum := sum_highWater_snoc sources run hmem
    have hfaith := Run.faithful hrun hprev.noLap
    have hexpected := Run.expected hrun d.1
    rw [List.length_append,List.length_singleton]
    cases hstep with
    | next h =>
      have hgt : highWater d.1 run < d.2.toNat := by
        rw [←hacc,←hexpected,h,sub_self]
        decide
      have hdist := ahead_distance (hnat.expected d.1) hgt
      rw [←hexpected,h,sub_self,UInt64.toNat_zero] at hdist
      rw [←h] at hdist
      dsimp only
      omega
    | jump hne h =>
      rw [hexpected] at h
      have hgt := hacc.mp h
      have hdist := ahead_distance (hnat.expected d.1) hgt
      rw [←hexpected] at hdist
      rw [Multiset.card_add,card_jumpPoints _ _ hne]
      omega
    | late h ref balance rest hp =>
      rw [hexpected] at h
      have hle : ¬highWater d.1 run < d.2.toNat := fun hgt => h (hacc.mpr hgt)
      rw [hp,Multiset.card_cons] at hold
      dsimp only
      omega
    | invalid h hp =>
      rw [hexpected] at h
      have hle : ¬highWater d.1 run < d.2.toNat := fun hgt => h (hacc.mpr hgt)
      have hm : Missing d.1 run d.2 := (hnat.missing _ _).mpr ⟨hone,by omega,hfresh⟩
      obtain ⟨p,hpoint,hkey⟩ := Multiset.mem_map.mp ((hfaith.missing _ _).mpr hm)
      obtain ⟨h1,h2⟩ := Prod.mk.inj hkey
      rw [←h1,←h2] at hp
      exact absurd hpoint (hp p.2.1)

end Windows

end StraceGo.SequenceHistory

import StraceGo.EventIntegrityLedger
import StraceGo.ListPositions

/-!
# Exact sequence-gap accounting

The interval lists, the gap groups and the snapshot counters agree with each
other and with the history of observed records, along every run that fits
the counters and laps no missing number. An intentional stop then keeps
exactly the intervals of confirmed groups, whichever order the cpus are
visited in.
-/

namespace StraceGo.EventIntegritySequence

open FiniteMaps EventEnvelope EventIntegrity EventIntegrityLedger
open IntervalPoints SequenceLedger SequenceHistory ListPositions

/-- Numbers in an interval. -/
def gapSize (gap : TraceSequenceGap) : ℕ := gap.last.toNat+1-gap.first.toNat

/-- Size of the intervals of a list that point to a group. -/
def groupSizeIn (ref : GroupRef) (gaps : List TraceSequenceGap) : ℕ :=
  (gaps.map (fun gap => if gap.group=some ref then gapSize gap else 0)).sum

/-- Total size of the intervals that point to a group. -/
def groupSize (i : TraceIntegrity) (ref : GroupRef) : ℕ :=
  mapSum (fun _ state => groupSizeIn ref state.gaps) i.cpus

/-- Total size of all intervals. -/
def missingTotal (i : TraceIntegrity) : ℕ :=
  mapSum (fun _ state => (state.gaps.map gapSize).sum) i.cpus

/-- A number lies in some interval of a cpu. -/
def InGap (i : TraceIntegrity) (cpu : UInt32) (n : UInt64) : Prop :=
  ∃ gap∈(cpuState i cpu).gaps, gap.first ≤ n ∧ n ≤ gap.last

/-- The three places that account for gaps agree with the observed history. -/
structure GapAccounting (run : List (Delivery UInt32)) (i : TraceIntegrity) : Prop where
  /-- No interval is empty. -/
  nonempty : ∀ cpu, ∀ gap∈(cpuState i cpu).gaps, gap.first ≤ gap.last
  /-- No two intervals of a cpu share a number. -/
  disjoint : ∀ cpu, (cpuState i cpu).gaps.Pairwise (fun a b =>
    ∀ n, ¬((a.first ≤ n ∧ n ≤ a.last) ∧ (b.first ≤ n ∧ n ≤ b.last)))
  /-- A group counts the numbers of its intervals. -/
  remaining : ∀ ref g, i.groups[ref]?=some g → g.remaining.toNat=groupSize i ref
  /-- The intervals hold the numbers skipped and not observed since. -/
  missing : ∀ cpu n, InGap i cpu n ↔ Missing cpu run n
  /-- The loss counter adds up the groups. -/
  lost : i.snapshot.estimatedLost.toNat=(i.groups.map (·.remaining.toNat)).sum
  /-- The gap counter counts the unresolved groups. -/
  gaps : i.snapshot.streamGaps.toNat=i.groups.countP (fun g => g.remaining≠0)
  /-- Resolving a held number meets none of the defensive guards. -/
  guards : ∀ cpu, ∀ gap∈(cpuState i cpu).gaps, i.snapshot.estimatedLost≠0 ∧
    i.snapshot.streamGaps≠0 ∧
    ∃ ref g, gap.group=some ref ∧ i.groups[ref]?=some g ∧ g.remaining≠0

section Sizes

variable (cpu : UInt32)

theorem card_gapPoints (gap : TraceSequenceGap) : (gapPoints cpu gap).card=gapSize gap := by
  rw [gapPoints,Multiset.card_map,card_points,gapSize]

/-- The points of a group in a list of intervals. -/
theorem countP_gapListPoints (ref : GroupRef) (gaps : List TraceSequenceGap) :
    (gapListPoints cpu gaps).countP (fun p => p.2.1=some ref)=groupSizeIn ref gaps := by
  induction gaps with
  | nil => rfl
  | cons gap gaps ih =>
    rw [gapListPoints_cons,Multiset.countP_add,ih,groupSizeIn,groupSizeIn,List.map_cons,
      List.sum_cons]
    congr 1
    split_ifs with hgroup
    · rw [Multiset.countP_eq_card.mpr,card_gapPoints]
      intro p hp
      exact ((mem_gapPoints cpu).mp hp).2.1.trans hgroup
    · rw [Multiset.countP_eq_zero]
      intro p hp heq
      exact hgroup (((mem_gapPoints cpu).mp hp).2.1.symm.trans heq)

theorem card_gapListPoints (gaps : List TraceSequenceGap) :
    (gapListPoints cpu gaps).card=(gaps.map gapSize).sum := by
  induction gaps with
  | nil => rfl
  | cons gap gaps ih =>
    rw [gapListPoints_cons,Multiset.card_add,ih,card_gapPoints,List.map_cons,List.sum_cons]

/-- The charge of a group is the size of its intervals. -/
theorem charge_eq_groupSize (i : TraceIntegrity) (ref : GroupRef) :
    (ledger i).charge ref=groupSize i ref := by
  have hmap := map_mapSum (Multiset.countPAddMonoidHom (fun p : Point UInt32 => p.2.1=some ref))
    cpuPoints i.cpus
  rw [Multiset.coe_countPAddMonoidHom] at hmap
  rw [Ledger.charge,ledger,hmap,groupSize]
  simp only [cpuPoints,countP_gapListPoints]

/-- All points together number the sizes of all intervals. -/
theorem card_points_eq_missingTotal (i : TraceIntegrity) :
    (ledger i).points.card=missingTotal i := by
  have hmap := map_mapSum (Multiset.cardHom (α := Point UInt32)) cpuPoints i.cpus
  rw [Multiset.cardHom_apply] at hmap
  rw [ledger,hmap,missingTotal]
  simp only [Multiset.cardHom_apply,cpuPoints,card_gapListPoints]

/-- Points without repetition come from disjoint intervals. -/
theorem pairwise_of_nodup {gaps : List TraceSequenceGap}
    (h : ((gapListPoints cpu gaps).map Point.key).Nodup) :
    gaps.Pairwise (fun a b => ∀ n, ¬((a.first ≤ n ∧ n ≤ a.last) ∧ (b.first ≤ n ∧ n ≤ b.last))) := by
  induction gaps with
  | nil => exact List.Pairwise.nil
  | cons gap gaps ih =>
    rw [gapListPoints_cons,Multiset.map_add] at h
    obtain ⟨-,hrest,hdisjoint⟩ := Multiset.nodup_add.mp h
    refine List.Pairwise.cons ?_ (ih hrest)
    rintro other hother n ⟨hn,hn'⟩
    have hleft : (cpu,n)∈(gapPoints cpu gap).map Point.key :=
      Multiset.mem_map.mpr ⟨(cpu,gap.group,n),(mem_gapPoints cpu).mpr ⟨rfl,rfl,hn⟩,rfl⟩
    have hright : (cpu,n)∈(gapListPoints cpu gaps).map Point.key :=
      Multiset.mem_map.mpr ⟨(cpu,other.group,n),(mem_gapListPoints cpu).mpr
        ⟨other,hother,(mem_gapPoints cpu).mpr ⟨rfl,rfl,hn'⟩⟩,rfl⟩
    exact Multiset.disjoint_left.mp hdisjoint hleft hright

end Sizes

section Accounting

variable {i : TraceIntegrity} {run : List (Delivery UInt32)}

/-- Intervals hold the same numbers as the ledger. -/
theorem inGap_iff_key {cpu : UInt32} {n : UInt64} :
    InGap i cpu n ↔ (cpu,n)∈(ledger i).points.map Point.key := by
  rw [InGap,←held_iff,Multiset.mem_map]
  constructor
  · rintro ⟨group,hp⟩
    exact ⟨(cpu,group,n),hp,rfl⟩
  · rintro ⟨p,hp,hkey⟩
    obtain ⟨rfl,rfl⟩ := Prod.mk.inj hkey
    exact ⟨p.2.1,hp⟩

/-- A sound, exact and faithful ledger is exact gap accounting. -/
theorem gapAccounting_of_ledger (hgaps : GapsNonempty i) (hs : Sound (ledger i))
    (hx : Exact (ledger i)) (hf : Faithful run (ledger i)) : GapAccounting run i where
  nonempty := fun cpu => cpuState_nonempty hgaps
  disjoint := by
    intro cpu
    apply pairwise_of_nodup cpu
    have hnodup := hf.nodup
    rw [points_split i cpu,Multiset.map_add] at hnodup
    exact (Multiset.nodup_add.mp hnodup).1
  remaining := by
    intro ref g hg
    rw [←charge_eq_groupSize]
    apply hs.charged
    rw [ledger,List.getElem?_map,hg]
    rfl
  missing := by
    intro cpu n
    rw [inGap_iff_key,hf.missing]
  lost := by
    have hlost := hx.lost_eq
    rw [←hs.sum_remaining,ledger,List.map_map] at hlost
    exact hlost
  gaps := by
    have hcount := hx.gaps_eq
    rw [ledger,openJumps,List.countP_map] at hcount
    exact hcount
  guards := by
    intro cpu gap hgap
    have hne := cpuState_nonempty hgaps gap hgap
    obtain ⟨ref,g,hgroup,hg,hbalance⟩ := held_group hs hgap ⟨UInt64.le_refl _,hne⟩
    have hp : (cpu,gap.group,gap.first)∈(ledger i).points := mem_points_iff.mpr
      ⟨gap,hgap,(mem_gapPoints cpu).mpr ⟨rfl,rfl,UInt64.le_refl _,hne⟩⟩
    have hbal : (ledger i).remaining[ref]?=some g.remaining := by
      rw [ledger,List.getElem?_map,hg]
      rfl
    have hcard := Multiset.card_pos_iff_exists_mem.mpr ⟨_,hp⟩
    have hopen := openJumps_pos hbal hbalance
    refine ⟨?_,?_,ref,g,hgroup,hg,hbalance⟩
    · intro hzero
      have hlost := hx.lost_eq
      rw [show (ledger i).lost=0 from hzero,UInt64.toNat_zero] at hlost
      omega
    · intro hzero
      have hcount := hx.gaps_eq
      rw [show (ledger i).gaps=0 from hzero,UInt64.toNat_zero] at hcount
      omega

/-- The high-water sequence of a windowed run is the largest observed number. -/
theorem sequence_eq_highWater (state fdState notify : Bool) {evs : List TraceEventEnvelope}
    (hlegacy : ∀ ev∈evs, ev.legacyIntegrity=false) (hw : Windowed (deliveries evs))
    (cpu : UInt32) :
    (cpuState (observeRun (newTraceIntegrity state fdState notify) evs) cpu).sequence.toNat=
      highWater cpu (deliveries evs) := by
  obtain ⟨hrun,-⟩ := observeRun_refines state fdState notify hlegacy
  have hexpected := hw.natural.expected cpu
  rw [←Run.expected hrun cpu] at hexpected
  have hhigh := highWater_lt cpu (deliveries evs)
  generalize observeRun (newTraceIntegrity state fdState notify) evs=i at *
  have hnext : (ledger i).expected cpu=(cpuState i cpu).sequence+1 := by
    rw [ledger]
    dsimp only
    rw [TraceIntegrity.expectedSequence,cpuState]
    cases i.cpus.lookup cpu with
    | none => rfl
    | some found => rfl
  have hlt := (cpuState i cpu).sequence.toNat_lt
  have hone : (1 : UInt64).toNat=1 := rfl
  rw [hnext,UInt64.toNat_add] at hexpected
  omega

end Accounting

section Stop

/-- State of the abandoning loop: the groups discarded so far, each once, are
what the counters have dropped by. -/
structure Discarding (i j : TraceIntegrity) (discarded : List GroupRef) : Prop where
  /-- Groups are never rewritten. -/
  groups : j.groups=i.groups
  /-- Every group is discarded once. -/
  nodup : discarded.Nodup
  /-- Only unconfirmed unresolved groups are discarded. -/
  unconfirmed : ∀ ref∈discarded, ∃ g, i.groups[ref]?=some g ∧ g.confirmed=false ∧ g.remaining≠0
  /-- The loss counter has dropped by the discarded numbers. -/
  lost : j.snapshot.estimatedLost.toNat+
    (discarded.map (weightAt (·.remaining.toNat) i.groups)).sum=i.snapshot.estimatedLost.toNat
  /-- The gap counter has dropped by the discarded groups. -/
  gaps : j.snapshot.streamGaps.toNat+discarded.length=i.snapshot.streamGaps.toNat

variable {i j : TraceIntegrity} {run : List (Delivery UInt32)} {discarded : List GroupRef}

theorem confirmedGap_congr (h : j.groups=i.groups) (gap : TraceSequenceGap) :
    j.confirmedGap gap=i.confirmedGap gap := by
  unfold TraceIntegrity.confirmedGap TraceIntegrity.groupOf
  rw [h]

/-- Unresolved groups among the discarded ones count as many as there are. -/
theorem sum_indicator (groups : List TraceSequenceGapGroup)
    (hopen : ∀ ref∈discarded, ∃ g, groups[ref]?=some g ∧ g.confirmed=false ∧ g.remaining≠0) :
    (discarded.map (weightAt (fun g => if g.remaining≠0 then 1 else 0) groups)).sum=
      discarded.length := by
  induction discarded with
  | nil => rfl
  | cons ref rest ih =>
    obtain ⟨g,hg,-,hne⟩ := hopen ref List.mem_cons_self
    rw [List.map_cons,List.sum_cons,ih (fun r hr => hopen r (List.mem_cons_of_mem _ hr)),
      weightAt,hg,Option.elim_some,if_pos hne,List.length_cons,Nat.add_comm]

theorem countP_eq_sum (groups : List TraceSequenceGapGroup) :
    groups.countP (fun g => g.remaining≠0)=
      (groups.map (fun g => if g.remaining≠0 then 1 else 0)).sum := by
  induction groups with
  | nil => rfl
  | cons g rest ih =>
    rw [List.countP_cons,List.map_cons,List.sum_cons,ih,Nat.add_comm]
    simp only [decide_eq_true_eq]

/-- Discarding the group of an unconfirmed interval. -/
theorem discardSequenceGapGroup_spec (hacc : GapAccounting run i) (hd : Discarding i j discarded)
    {cpu : UInt32} {gap : TraceSequenceGap} (hgap : gap∈(cpuState i cpu).gaps)
    (hconf : i.confirmedGap gap=false) :
    ∃ j' discarded', j.discardSequenceGapGroup gap.group discarded=(j',discarded') ∧
      Discarding i j' discarded' ∧ j'.cpus=j.cpus ∧ (∀ ref∈discarded, ref∈discarded') ∧
      ∃ ref, gap.group=some ref ∧ ref∈discarded' := by
  obtain ⟨-,-,ref,g,hgroup,hg,hne⟩ := hacc.guards cpu gap hgap
  have hunconf : g.confirmed=false := by
    rw [TraceIntegrity.confirmedGap,TraceIntegrity.groupOf,hgroup,Option.bind_some,hg] at hconf
    exact hconf
  unfold TraceIntegrity.discardSequenceGapGroup
  rw [hgroup,Option.bind_some,hd.groups,hg,Option.map_some]
  dsimp only
  by_cases hseen : ref∈discarded
  · rw [if_pos hseen]
    exact ⟨j,discarded,rfl,hd,rfl,fun _ h => h,ref,rfl,hseen⟩
  rw [if_neg hseen]
  have hnodup : (ref::discarded).Nodup := List.nodup_cons.mpr ⟨hseen,hd.nodup⟩
  have hopen : ∀ r∈ref::discarded, ∃ g, i.groups[r]?=some g ∧ g.confirmed=false ∧
      g.remaining≠0 := by
    intro r hr
    rcases List.mem_cons.mp hr with rfl | hold
    · exact ⟨g,hg,hunconf,hne⟩
    · exact hd.unconfirmed r hold
  have hlt : ∀ r∈ref::discarded, r < i.groups.length := by
    intro r hr
    obtain ⟨g',hg',-⟩ := hopen r hr
    exact (List.getElem?_eq_some_iff.mp hg').1
  have hweight : weightAt (·.remaining.toNat) i.groups ref=g.remaining.toNat := by
    rw [weightAt,hg]
    rfl
  have hlost := hd.lost
  have hgaps := hd.gaps
  have hlostRoom := sum_visited_le (·.remaining.toNat) hnodup hlt
  have hgapsRoom := sum_visited_le (fun g => if g.remaining≠0 then 1 else 0) hnodup hlt
  rw [sum_indicator i.groups hopen,←countP_eq_sum,←hacc.gaps,List.length_cons] at hgapsRoom
  rw [←hacc.lost,List.map_cons,List.sum_cons,hweight] at hlostRoom
  have hgapsPos : j.snapshot.streamGaps≠0 := by
    intro hzero
    rw [hzero,UInt64.toNat_zero] at hgaps
    omega
  have hlostLe : g.remaining ≤ j.snapshot.estimatedLost := by
    rw [UInt64.le_iff_toNat_le]
    omega
  have hpred := toNat_pred_word hgapsPos
  refine ⟨_,_,rfl,⟨rfl,hnodup,hopen,?_,?_⟩,rfl,fun _ h => List.mem_cons_of_mem _ h,
    ref,rfl,List.mem_cons_self⟩
  · dsimp only
    rw [if_pos hlostLe,UInt64.toNat_sub_of_le _ _ hlostLe,List.map_cons,List.sum_cons,hweight]
    rw [UInt64.le_iff_toNat_le] at hlostLe
    omega
  · dsimp only
    rw [if_pos hgapsPos,List.length_cons]
    omega

/-- One cpu's intervals in the abandoning loop. -/
theorem discard_gaps (hacc : GapAccounting run i) (cpu : UInt32) (gaps : List TraceSequenceGap)
    (hsub : ∀ gap∈gaps, gap∈(cpuState i cpu).gaps) (hd : Discarding i j discarded) :
    ∃ j' discarded', gaps.foldl (fun (acc : TraceIntegrity×List GroupRef) gap =>
        if acc.1.confirmedGap gap then acc
        else acc.1.discardSequenceGapGroup gap.group acc.2) (j,discarded)=(j',discarded') ∧
      Discarding i j' discarded' ∧ j'.cpus=j.cpus ∧ (∀ ref∈discarded, ref∈discarded') ∧
      ∀ gap∈gaps, i.confirmedGap gap=false → ∃ ref, gap.group=some ref ∧ ref∈discarded' := by
  induction gaps generalizing j discarded with
  | nil =>
    exact ⟨j,discarded,rfl,hd,rfl,fun _ h => h,fun gap hgap => absurd hgap List.not_mem_nil⟩
  | cons gap gaps ih =>
    have hrest := fun g hg => hsub g (List.mem_cons_of_mem _ hg)
    rw [List.foldl_cons]
    dsimp only
    rw [confirmedGap_congr hd.groups]
    by_cases hconf : i.confirmedGap gap=true
    · rw [if_pos hconf]
      obtain ⟨j',discarded',heq,hd',hcpus,hmono,hall⟩ := ih hrest hd
      refine ⟨j',discarded',heq,hd',hcpus,hmono,?_⟩
      intro g hg hunconf
      rcases List.mem_cons.mp hg with rfl | hold
      · rw [hconf] at hunconf
        nomatch hunconf
      · exact hall g hold hunconf
    · rw [if_neg hconf]
      obtain ⟨j₁,discarded₁,heq₁,hd₁,hcpus₁,hmono₁,ref,hgroup,href⟩ :=
        discardSequenceGapGroup_spec hacc hd (hsub gap List.mem_cons_self)
          (by simpa using hconf)
      obtain ⟨j',discarded',heq,hd',hcpus,hmono,hall⟩ := ih hrest hd₁
      rw [heq₁]
      refine ⟨j',discarded',heq,hd',hcpus.trans hcpus₁,fun r hr => hmono r (hmono₁ r hr),?_⟩
      intro g hg hunconf
      rcases List.mem_cons.mp hg with rfl | hold
      · exact ⟨ref,hgroup,hmono ref href⟩
      · exact hall g hold hunconf

/-- State of a cpu after the stop. -/
def keptState (i : TraceIntegrity) (state : TraceCPUSequence) : TraceCPUSequence :=
  {state with gaps := state.gaps.filter i.confirmedGap}

/-- The abandoning loop over any list of distinct cpus. -/
theorem abandon_cpus (hacc : GapAccounting run i) (order : List UInt32) (hnodup : order.Nodup)
    (hmem : ∀ cpu∈order, cpu∈i.cpus) :
    ∃ j discarded, order.foldl TraceIntegrity.abandonCPU (i,[])=(j,discarded) ∧
      Discarding i j discarded ∧
      (∀ cpu, j.cpus.lookup cpu=if cpu∈order then
        (i.cpus.lookup cpu).map (keptState i) else i.cpus.lookup cpu) ∧
      ∀ cpu∈order, ∀ gap∈(cpuState i cpu).gaps, i.confirmedGap gap=false →
        ∃ ref, gap.group=some ref ∧ ref∈discarded := by
  induction order using List.reverseRecOn with
  | nil =>
    refine ⟨i,[],rfl,⟨rfl,List.nodup_nil,?_,rfl,rfl⟩,fun cpu => by simp,?_⟩
    · exact fun ref href => absurd href List.not_mem_nil
    · exact fun cpu hcpu => absurd hcpu List.not_mem_nil
  | append_singleton order cpu ih =>
    obtain ⟨hold,-,hfresh⟩ := List.nodup_append.mp hnodup
    have hnew : cpu∉order := fun h => hfresh cpu h cpu List.mem_cons_self rfl
    obtain ⟨j,discarded,heq,hd,hlookup,hall⟩ :=
      ih hold (fun c hc => hmem c (List.mem_append_left _ hc))
    have hsame : j.cpus.lookup cpu=i.cpus.lookup cpu := by rw [hlookup,if_neg hnew]
    have hstate : (j.cpus.lookup cpu).getD {}=cpuState i cpu := by rw [hsame,cpuState]
    obtain ⟨j',discarded',hfold,hd',hcpus,hmono,hdone⟩ :=
      discard_gaps hacc cpu (cpuState i cpu).gaps (fun _ h => h) hd
    obtain ⟨state,hsome⟩ :=
      Finmap.mem_iff.mp (hmem cpu (List.mem_append_right _ List.mem_cons_self))
    rw [List.foldl_append,heq,List.foldl_cons,List.foldl_nil]
    unfold TraceIntegrity.abandonCPU
    dsimp only
    rw [hstate,hfold]
    refine ⟨_,_,rfl,⟨hd'.groups,hd'.nodup,hd'.unconfirmed,hd'.lost,hd'.gaps⟩,?_,?_⟩
    · intro other
      dsimp only
      rw [lookup_insert_ite,hcpus,hlookup]
      by_cases hother : other=cpu
      · subst hother
        rw [if_pos rfl,if_pos (List.mem_append_right _ List.mem_cons_self),hsome,Option.map_some,
          cpuState,hsome,Option.getD_some,keptState]
        congr 2
        exact List.filter_congr (fun gap _ => confirmedGap_congr hd'.groups gap)
      · have hiff : other∈order ++ [cpu] ↔ other∈order := by simp [hother]
        rw [if_neg hother]
        simp only [hiff]
    · intro other hin gap hgap hunconf
      rcases List.mem_append.mp hin with hold | hlast
      · obtain ⟨ref,hgroup,href⟩ := hall other hold gap hgap hunconf
        exact ⟨ref,hgroup,hmono ref href⟩
      · rw [List.mem_singleton] at hlast
        subst hlast
        exact hdone gap hgap hunconf

/-- What an intentional stop leaves of the accounting. -/
structure StopAccounting (i j : TraceIntegrity) : Prop where
  /-- Exactly the intervals of unconfirmed groups are gone. -/
  intervals : ∀ cpu, (cpuState j cpu).gaps=(cpuState i cpu).gaps.filter i.confirmedGap
  /-- High-water sequences stay. -/
  sequences : ∀ cpu, (cpuState j cpu).sequence=(cpuState i cpu).sequence
  /-- Groups stay as they were. -/
  groups : j.groups=i.groups
  /-- The loss counter adds up the confirmed groups. -/
  lost : j.snapshot.estimatedLost.toNat=
    ((i.groups.filter (·.confirmed)).map (·.remaining.toNat)).sum
  /-- The gap counter counts the unresolved confirmed groups. -/
  gaps : j.snapshot.streamGaps.toNat=
    (i.groups.filter (·.confirmed)).countP (fun g => g.remaining≠0)

/-- An unresolved group has an interval on some observed cpu. -/
theorem exists_gap_of_remaining (hacc : GapAccounting run i) {ref : GroupRef}
    {g : TraceSequenceGapGroup} (hg : i.groups[ref]?=some g) (hne : g.remaining≠0) :
    ∃ cpu gap, cpu∈i.cpus ∧ gap∈(cpuState i cpu).gaps ∧ gap.group=some ref := by
  have hcharge := hacc.remaining ref g hg
  rw [←charge_eq_groupSize] at hcharge
  have hpos : 0 < (ledger i).charge ref := by
    rw [←hcharge,Nat.pos_iff_ne_zero]
    exact fun hzero => hne (UInt64.toNat_inj.mp hzero)
  rw [Ledger.charge,Multiset.countP_pos] at hpos
  obtain ⟨p,hp,hgroup⟩ := hpos
  obtain ⟨cpu,state,hlookup,hmem⟩ := mem_mapSum.mp hp
  obtain ⟨gap,hgap,hpoint⟩ := (mem_gapListPoints cpu).mp hmem
  refine ⟨cpu,gap,Finmap.mem_of_lookup_eq_some hlookup,?_,?_⟩
  · rw [cpuState,hlookup]
    exact hgap
  · exact ((mem_gapPoints cpu).mp hpoint).2.1.symm.trans hgroup

/-- The discarded groups of a finished loop are the unconfirmed unresolved ones. -/
theorem discarded_iff (hacc : GapAccounting run i) {order : List UInt32}
    (horder : Enumerates order i.cpus) (hd : Discarding i j discarded)
    (hall : ∀ cpu∈order, ∀ gap∈(cpuState i cpu).gaps, i.confirmedGap gap=false →
      ∃ ref, gap.group=some ref ∧ ref∈discarded)
    {ref : GroupRef} {g : TraceSequenceGapGroup} (hg : i.groups[ref]?=some g)
    (hne : g.remaining≠0) : ref∈discarded ↔ g.confirmed=false := by
  constructor
  · intro href
    obtain ⟨g',hg',hunconf,-⟩ := hd.unconfirmed ref href
    rw [hg,Option.some.injEq] at hg'
    rw [hg']
    exact hunconf
  · intro hunconf
    obtain ⟨cpu,gap,hcpu,hgap,hgroup⟩ := exists_gap_of_remaining hacc hg hne
    have hconf : i.confirmedGap gap=false := by
      rw [TraceIntegrity.confirmedGap,TraceIntegrity.groupOf,hgroup,Option.bind_some,hg]
      exact hunconf
    obtain ⟨ref',hgroup',href'⟩ := hall cpu ((horder.2 cpu).mpr hcpu) gap hgap hconf
    rw [hgroup,Option.some.injEq] at hgroup'
    rw [hgroup']
    exact href'

/-- An intentional stop of exact accounting keeps the confirmed part, in any
visiting order. -/
theorem stopAccounting_of_gapAccounting (hacc : GapAccounting run i) {order : List UInt32}
    (horder : Enumerates order i.cpus) (order' : List UInt32) :
    StopAccounting i (i.finalizeAtIntentionalStop order order') := by
  obtain ⟨j,discarded,heq,hd,hlookup,hall⟩ :=
    abandon_cpus hacc order horder.1 (fun cpu hcpu => (horder.2 cpu).mp hcpu)
  unfold TraceIntegrity.finalizeAtIntentionalStop TraceIntegrity.abandonUnconfirmedSequenceGaps
  rw [heq]
  dsimp only
  have hlt : ∀ ref∈discarded, ref < i.groups.length := by
    intro ref href
    obtain ⟨g,hg,-⟩ := hd.unconfirmed ref href
    exact (List.getElem?_eq_some_iff.mp hg).1
  have hiff := fun ref g (hg : i.groups[ref]?=some g) (hne : g.remaining≠0) =>
    discarded_iff hacc horder hd hall hg hne
  have hcpus : ∀ cpu, j.cpus.lookup cpu=(i.cpus.lookup cpu).map (keptState i) := by
    intro cpu
    rw [hlookup]
    split_ifs with hin
    · rfl
    · have hnot : cpu∉i.cpus := fun h => hin ((horder.2 cpu).mpr h)
      rw [Finmap.lookup_eq_none.mpr hnot]
      rfl
  refine ⟨?_,?_,hd.groups,?_,?_⟩
  · intro cpu
    rw [cpuState,cpuState]
    dsimp only
    rw [hcpus]
    cases i.cpus.lookup cpu with
    | none => rfl
    | some state => rfl
  · intro cpu
    rw [cpuState,cpuState]
    dsimp only
    rw [hcpus]
    cases i.cpus.lookup cpu with
    | none => rfl
    | some state => rfl
  · have hsum := sum_visited_add_kept (·.remaining.toNat) (·.confirmed) hd.nodup hlt (by
      intro ref g hg hne
      exact hiff ref g hg (fun hzero => hne (by rw [hzero]; rfl)))
    have hlost := hd.lost
    rw [hacc.lost] at hlost
    dsimp only
    omega
  · have hsum := sum_visited_add_kept (fun g => if g.remaining≠0 then 1 else 0) (·.confirmed)
      hd.nodup hlt (by
        intro ref g hg hne
        exact hiff ref g hg (fun hzero => hne (if_neg (not_not.mpr hzero))))
    have hgaps := hd.gaps
    rw [hacc.gaps,countP_eq_sum] at hgaps
    rw [sum_indicator i.groups hd.unconfirmed] at hsum
    rw [countP_eq_sum]
    dsimp only
    omega

end Stop

/-- A run with a confirmed and an unconfirmed jump and one late record. -/
def jumpedRun : List TraceEventEnvelope :=
  [{eventType := .enter, cpu := 0, seq := 3, lossEpoch := 1},
    {eventType := .exit, cpu := 1, seq := 5},
    {eventType := .enter, cpu := 0, seq := 1}]

/-- A run whose cpu comes around the word and delivers a number in order that
it had skipped. -/
def lappedRun : List TraceEventEnvelope :=
  [{eventType := .enter, seq := 0x8000000000000000},{eventType := .exit, seq := 0xffffffffffffffff},
    {eventType := .enter, seq := 0},{eventType := .exit, seq := 1}]

end StraceGo.EventIntegritySequence

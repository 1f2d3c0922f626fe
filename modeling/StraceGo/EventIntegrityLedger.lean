import StraceGo.EventIntegrity
import StraceGo.SequenceHistory
import Mathlib.Tactic.Abel

/-!
# The observer refines the ledger of missing numbers

The interval lists of all cpus together denote the points of a ledger, the
gap groups its balances, and two snapshot counters its counters. Every
observed record is one ledger step. Taints, task entries, loss times and
locations do not touch the ledger.
-/

namespace StraceGo.EventIntegrityLedger

open FiniteMaps EventEnvelope EventIntegrity IntervalPoints SequenceLedger SequenceHistory

/-- Missing numbers of one interval. -/
def gapPoints (cpu : UInt32) (gap : TraceSequenceGap) : Multiset (Point UInt32) :=
  (points gap.first gap.last).map (fun n => (cpu,gap.group,n))

/-- Missing numbers of a list of intervals. -/
def gapListPoints (cpu : UInt32) (gaps : List TraceSequenceGap) : Multiset (Point UInt32) :=
  (gaps.map (gapPoints cpu)).sum

/-- Missing numbers of one cpu. -/
def cpuPoints (cpu : UInt32) (state : TraceCPUSequence) : Multiset (Point UInt32) :=
  gapListPoints cpu state.gaps

/-- Ledger denoted by an observer. -/
def ledger (i : TraceIntegrity) : Ledger UInt32 where
  points := mapSum cpuPoints i.cpus
  remaining := i.groups.map (·.remaining)
  lost := i.snapshot.estimatedLost
  gaps := i.snapshot.streamGaps
  expected := i.expectedSequence

/-- No stored interval is empty. -/
def GapsNonempty (i : TraceIntegrity) : Prop :=
  ∀ cpu state, i.cpus.lookup cpu=some state → ∀ gap∈state.gaps, gap.first ≤ gap.last

/-- Source and number of a record. -/
def delivery (ev : TraceEventEnvelope) : Delivery UInt32 := (ev.cpu,ev.seq)

/-- Deliveries of a run of records. -/
def deliveries (evs : List TraceEventEnvelope) : List (Delivery UInt32) := evs.map delivery

/-- State after a run of records. -/
def observeRun (i : TraceIntegrity) (evs : List TraceEventEnvelope) : TraceIntegrity :=
  evs.foldl (fun i ev => (i.observe ev).1) i

theorem observeRun_snoc (i : TraceIntegrity) (evs : List TraceEventEnvelope)
    (ev : TraceEventEnvelope) :
    observeRun i (evs ++ [ev])=((observeRun i evs).observe ev).1 := by
  rw [observeRun,List.foldl_append]
  rfl

theorem deliveries_snoc (evs : List TraceEventEnvelope) (ev : TraceEventEnvelope) :
    deliveries (evs ++ [ev])=deliveries evs ++ [delivery ev] := List.map_append

/-- Records numbered in the lower half of the word are windowed. -/
theorem windowed_deliveries {evs : List TraceEventEnvelope}
    (h : ∀ ev∈evs, 1 ≤ ev.seq ∧ ev.seq < traceSequenceForwardLimit) :
    Windowed (deliveries evs) := by
  apply windowed_of_half
  intro d hd
  obtain ⟨ev,hev,rfl⟩ := List.mem_map.mp hd
  exact h ev hev

section Intervals

variable (cpu : UInt32)

theorem gapListPoints_append (xs ys : List TraceSequenceGap) :
    gapListPoints cpu (xs ++ ys)=gapListPoints cpu xs+gapListPoints cpu ys := by
  rw [gapListPoints,List.map_append,List.sum_append]
  rfl

theorem gapListPoints_cons (gap : TraceSequenceGap) (gaps : List TraceSequenceGap) :
    gapListPoints cpu (gap::gaps)=gapPoints cpu gap+gapListPoints cpu gaps := by
  rw [gapListPoints,List.map_cons,List.sum_cons]
  rfl

theorem gapListPoints_nil : gapListPoints cpu []=0 := rfl

theorem mem_gapPoints {gap : TraceSequenceGap} {p : Point UInt32} :
    p∈gapPoints cpu gap ↔ p.1=cpu ∧ p.2.1=gap.group ∧ gap.first ≤ p.2.2 ∧ p.2.2 ≤ gap.last := by
  rw [gapPoints,Multiset.mem_map]
  constructor
  · rintro ⟨n,hn,rfl⟩
    exact ⟨rfl,rfl,mem_points.mp hn⟩
  · rintro ⟨rfl,hgroup,hn⟩
    exact ⟨p.2.2,mem_points.mpr hn,by rw [←hgroup]⟩

theorem mem_gapListPoints {gaps : List TraceSequenceGap} {p : Point UInt32} :
    p∈gapListPoints cpu gaps ↔ ∃ gap∈gaps, p∈gapPoints cpu gap := by
  induction gaps with
  | nil => simp [gapListPoints_nil]
  | cons gap gaps ih =>
    rw [gapListPoints_cons,Multiset.mem_add,ih]
    simp only [List.mem_cons,exists_eq_or_imp]

theorem contains_iff (gap : TraceSequenceGap) (n : UInt64) :
    gap.contains n=true ↔ gap.first ≤ n ∧ n ≤ gap.last := by
  rw [TraceSequenceGap.contains,Bool.not_eq_true',Bool.or_eq_false_iff,decide_eq_false_iff_not,
    decide_eq_false_iff_not,UInt64.not_lt,UInt64.not_lt]

/-- An entry of a list splits it. -/
theorem split_at {α : Type} {xs : List α} {index : ℕ} {x : α} (h : xs[index]?=some x) :
    ∃ before after, xs=before ++ x::after ∧ before.length=index := by
  obtain ⟨hlt,hx⟩ := List.getElem?_eq_some_iff.mp h
  refine ⟨xs.take index,xs.drop (index+1),?_,List.length_take_of_le (by omega)⟩
  rw [←hx,List.cons_getElem_drop_succ,List.take_append_drop]

/-- Removing a held number takes out exactly its point, in each of the four
shapes, and leaves no empty interval. -/
theorem removeSequenceFromGap_points {gaps : List TraceSequenceGap} {index : ℕ}
    {gap : TraceSequenceGap} {n : UInt64} (hgap : gaps[index]?=some gap)
    (hn : gap.first ≤ n ∧ n ≤ gap.last) :
    gapListPoints cpu gaps=
      (cpu,gap.group,n)::ₘgapListPoints cpu (removeSequenceFromGap gaps index gap n) := by
  obtain ⟨before,after,rfl,rfl⟩ := split_at hgap
  have htotal : ∀ (rest : Multiset (Point UInt32)) (kept : List TraceSequenceGap),
      gapPoints cpu gap=(cpu,gap.group,n)::ₘrest →
      gapListPoints cpu kept=gapListPoints cpu before+(rest+gapListPoints cpu after) →
      gapListPoints cpu (before ++ gap::after)=(cpu,gap.group,n)::ₘgapListPoints cpu kept := by
    intro rest kept hcut hkept
    rw [gapListPoints_append,gapListPoints_cons,hcut,hkept,Multiset.cons_add,Multiset.add_cons]
  unfold removeSequenceFromGap
  by_cases hsame : gap.first=gap.last
  · rw [if_pos hsame]
    have hnlast : n=gap.last := by grind
    apply htotal 0
    · rw [gapPoints,hsame,points_self,hnlast]
      rfl
    · rw [List.eraseIdx_append_of_length_le (Nat.le_refl _),Nat.sub_self,List.eraseIdx_cons_zero,
        gapListPoints_append,zero_add]
  rw [if_neg hsame]
  have hlt : gap.first < gap.last := by grind
  by_cases hfirst : n=gap.first
  · rw [if_pos hfirst]
    apply htotal (gapPoints cpu {gap with first := gap.first+1})
    · rw [gapPoints,points_cut_first hlt,Multiset.map_cons,hfirst]
      rfl
    · rw [List.set_append_right _ _ (Nat.le_refl _),Nat.sub_self,List.set_cons_zero,
        gapListPoints_append,gapListPoints_cons]
  rw [if_neg hfirst]
  by_cases hlast : n=gap.last
  · rw [if_pos hlast]
    apply htotal (gapPoints cpu {gap with last := gap.last-1})
    · rw [gapPoints,points_cut_last hlt,Multiset.map_cons,hlast]
      rfl
    · rw [List.set_append_right _ _ (Nat.le_refl _),Nat.sub_self,List.set_cons_zero,
        gapListPoints_append,gapListPoints_cons]
  · rw [if_neg hlast]
    have hlow : gap.first < n := by grind
    have hhigh : n < gap.last := by grind
    apply htotal (gapPoints cpu {gap with last := n-1}+
      gapPoints cpu ⟨n+1,gap.last,gap.group⟩)
    · rw [gapPoints,points_cut_inside hlow hhigh,Multiset.map_cons,Multiset.map_add]
      rfl
    · rw [List.set_append_right _ _ (Nat.le_refl _),Nat.sub_self,List.set_cons_zero,
        gapListPoints_append,gapListPoints_append,gapListPoints_cons,gapListPoints_cons,
        gapListPoints_nil]
      abel

/-- Removing a held number leaves no empty interval. -/
theorem removeSequenceFromGap_nonempty {gaps : List TraceSequenceGap} {index : ℕ}
    {gap : TraceSequenceGap} {n : UInt64} (hn : gap.first ≤ n ∧ n ≤ gap.last)
    (hgaps : ∀ g∈gaps, g.first ≤ g.last) :
    ∀ g∈removeSequenceFromGap gaps index gap n, g.first ≤ g.last := by
  intro g hg
  unfold removeSequenceFromGap at hg
  split_ifs at hg with hsame hfirst hlast
  · exact hgaps g (List.mem_of_mem_eraseIdx hg)
  · rcases List.mem_or_eq_of_mem_set hg with hold | rfl
    · exact hgaps g hold
    · dsimp only
      grind
  · rcases List.mem_or_eq_of_mem_set hg with hold | rfl
    · exact hgaps g hold
    · dsimp only
      grind
  · rcases List.mem_append.mp hg with hset | hnew
    · rcases List.mem_or_eq_of_mem_set hset with hold | rfl
      · exact hgaps g hold
      · dsimp only
        grind
    · rw [List.mem_singleton] at hnew
      subst hnew
      dsimp only
      grind

end Intervals

section Frame

/-- The stream counters of an observer are unchanged. -/
structure SameStream (i j : TraceIntegrity) : Prop where
  cpus : j.cpus=i.cpus
  remaining : j.groups.map (·.remaining)=i.groups.map (·.remaining)
  lost : j.snapshot.estimatedLost=i.snapshot.estimatedLost
  gaps : j.snapshot.streamGaps=i.snapshot.streamGaps
  tail : j.snapshot.unobservedTail=i.snapshot.unobservedTail

theorem SameStream.refl (i : TraceIntegrity) : SameStream i i := ⟨rfl,rfl,rfl,rfl,rfl⟩

theorem SameStream.trans {i j k : TraceIntegrity} (hij : SameStream i j)
    (hjk : SameStream j k) : SameStream i k :=
  ⟨hjk.cpus.trans hij.cpus,hjk.remaining.trans hij.remaining,hjk.lost.trans hij.lost,
    hjk.gaps.trans hij.gaps,hjk.tail.trans hij.tail⟩

theorem SameStream.ledger {i j : TraceIntegrity} (h : SameStream i j) : ledger j=ledger i := by
  unfold EventIntegrityLedger.ledger TraceIntegrity.expectedSequence
  rw [h.cpus,h.remaining,h.lost,h.gaps]

theorem SameStream.gapsNonempty {i j : TraceIntegrity} (h : SameStream i j)
    (hne : GapsNonempty i) : GapsNonempty j := by
  unfold GapsNonempty
  rw [h.cpus]
  exact hne

variable (i : TraceIntegrity) (ev : TraceEventEnvelope)

theorem taintAt_sameStream (reason : TaintReason) (record : UInt64) :
    SameStream i (i.taintAt reason record) := ⟨rfl,rfl,rfl,rfl,rfl⟩

theorem observeLossTime_sameStream (ns : UInt64) : SameStream i (i.observeLossTime ns) := by
  unfold TraceIntegrity.observeLossTime
  split_ifs
  · exact ⟨rfl,rfl,rfl,rfl,rfl⟩
  · exact SameStream.refl i

theorem confirmGap_sameStream (gap : Option GroupRef) : SameStream i (i.confirmGap gap) := by
  cases gap with
  | none => exact SameStream.refl i
  | some ref =>
    refine ⟨rfl,?_,rfl,rfl,rfl⟩
    apply List.ext_getElem?
    intro j
    simp only [TraceIntegrity.confirmGap,List.getElem?_map,List.getElem?_modify]
    cases i.groups[j]? with
    | none => rfl
    | some g =>
      simp only [Option.map_some]
      split_ifs <;> rfl

theorem observeTaskLifecycle_sameStream : SameStream i (i.observeTaskLifecycle ev) := by
  unfold TraceIntegrity.observeTaskLifecycle
  dsimp only
  split_ifs
  all_goals
    first
    | exact SameStream.refl i
    | exact ⟨rfl,rfl,rfl,rfl,rfl⟩

theorem observeTask_sameStream : SameStream i (i.observeTask ev) := by
  unfold TraceIntegrity.observeTask
  by_cases htid : ev.tid=0
  · rw [if_pos htid]
    exact SameStream.refl i
  rw [if_neg htid]
  by_cases hlife : ev.isLifecycle=true
  · rw [if_pos hlife]
    exact observeTaskLifecycle_sameStream i ev
  rw [if_neg hlife]
  dsimp only
  split_ifs <;> exact ⟨rfl,rfl,rfl,rfl,rfl⟩

theorem observeLossEpoch_sameStream (epoch : UInt64) :
    SameStream i (i.observeLossEpoch epoch) := by
  unfold TraceIntegrity.observeLossEpoch
  split_ifs
  · exact ⟨rfl,rfl,rfl,rfl,rfl⟩
  · exact SameStream.refl i

theorem raise_sameStream (sequence : TraceSequenceObservation) (producerLoss : Bool) :
    SameStream i (i.raise ev sequence producerLoss) := by
  unfold TraceIntegrity.raise
  split_ifs
  · have hconfirm := confirmGap_sameStream i sequence.gap
    have hlocate : SameStream (i.confirmGap sequence.gap)
      ((i.confirmGap sequence.gap).setSequenceLocation ev sequence) := ⟨rfl,rfl,rfl,rfl,rfl⟩
    exact (hconfirm.trans hlocate).trans (taintAt_sameStream _ _ _)
  · have hlocate : SameStream i (i.setSequenceLocation ev sequence) := ⟨rfl,rfl,rfl,rfl,rfl⟩
    exact hlocate.trans (taintAt_sameStream _ _ _)
  · exact SameStream.refl i

/-- Everything after the sequence check leaves the stream accounting alone. -/
theorem observe_sameStream (hlegacy : ev.legacyIntegrity=false) :
    SameStream (i.countRecord.observeSequence ev).1 (i.observe ev).1 := by
  unfold TraceIntegrity.observe
  rw [if_neg (by simp [hlegacy])]
  exact (((observeLossEpoch_sameStream _ _).trans (observeLossTime_sameStream _ _)).trans
    (raise_sameStream _ _ _ _)).trans (observeTask_sameStream _ _)

end Frame

section Sequence

variable {i : TraceIntegrity} {cpu : UInt32}

/-- Sequence state of a cpu; fresh when it was never seen. -/
def cpuState (i : TraceIntegrity) (cpu : UInt32) : TraceCPUSequence :=
  (i.cpus.lookup cpu).getD {}

/-- The points of one cpu split off from the others. -/
theorem points_split (i : TraceIntegrity) (cpu : UInt32) :
    (ledger i).points=cpuPoints cpu (cpuState i cpu)+mapSum cpuPoints (i.cpus.erase cpu) :=
  mapSum_split cpuPoints i.cpus cpu rfl

/-- Every point of the observer lies in an interval of its cpu. -/
theorem mem_points_iff {p : Point UInt32} :
    p∈(ledger i).points ↔ ∃ gap∈(cpuState i p.1).gaps, p∈gapPoints p.1 gap := by
  rw [ledger,mem_mapSum]
  constructor
  · rintro ⟨cpu,state,hlookup,hp⟩
    obtain ⟨gap,hgap,hmem⟩ := (mem_gapListPoints cpu).mp hp
    obtain rfl := ((mem_gapPoints cpu).mp hmem).1
    rw [cpuState,hlookup]
    exact ⟨gap,hgap,hmem⟩
  · rintro ⟨gap,hgap,hmem⟩
    cases hlookup : i.cpus.lookup p.1 with
    | none =>
      rw [cpuState,hlookup] at hgap
      exact absurd hgap List.not_mem_nil
    | some state =>
      rw [cpuState,hlookup] at hgap
      exact ⟨p.1,state,hlookup,(mem_gapListPoints p.1).mpr ⟨gap,hgap,hmem⟩⟩

/-- Intervals of one cpu hold a number exactly when the ledger does. -/
theorem held_iff {n : UInt64} : (∃ group, (cpu,group,n)∈(ledger i).points) ↔
    ∃ gap∈(cpuState i cpu).gaps, gap.first ≤ n ∧ n ≤ gap.last := by
  constructor
  · rintro ⟨group,hp⟩
    obtain ⟨gap,hgap,hmem⟩ := mem_points_iff.mp hp
    exact ⟨gap,hgap,((mem_gapPoints cpu).mp hmem).2.2⟩
  · rintro ⟨gap,hgap,hn⟩
    exact ⟨gap.group,mem_points_iff.mpr ⟨gap,hgap,(mem_gapPoints cpu).mpr ⟨rfl,rfl,hn⟩⟩⟩

/-- Ledger after a cpu's state is written. -/
theorem ledger_insert {i' : TraceIntegrity} {state : TraceCPUSequence}
    (hcpus : i'.cpus=i.cpus.insert cpu state) :
    ledger i'=
      {points := cpuPoints cpu state+mapSum cpuPoints (i.cpus.erase cpu)
       remaining := i'.groups.map (·.remaining)
       lost := i'.snapshot.estimatedLost
       gaps := i'.snapshot.streamGaps
       expected := Function.update i.expectedSequence cpu (state.sequence+1)} := by
  have hexpected : i'.expectedSequence=
      Function.update i.expectedSequence cpu (state.sequence+1) := by
    funext other
    unfold TraceIntegrity.expectedSequence
    rw [Function.update_apply,hcpus,lookup_insert_ite]
    split_ifs <;> rfl
  rw [ledger,hexpected,hcpus,mapSum_insert]

/-- Writing a cpu's state without empty intervals. -/
theorem gapsNonempty_insert {i' : TraceIntegrity} {state : TraceCPUSequence}
    (hne : GapsNonempty i) (hcpus : i'.cpus=i.cpus.insert cpu state)
    (hstate : ∀ gap∈state.gaps, gap.first ≤ gap.last) : GapsNonempty i' := by
  intro other found hlookup
  rw [hcpus,lookup_insert_ite] at hlookup
  split_ifs at hlookup with hsame
  · obtain rfl := Option.some.inj hlookup
    exact hstate
  · exact hne other found hlookup

theorem cpuState_nonempty (hne : GapsNonempty i) :
    ∀ gap∈(cpuState i cpu).gaps, gap.first ≤ gap.last := by
  unfold cpuState
  cases hlookup : i.cpus.lookup cpu with
  | none => exact fun gap hgap => absurd hgap List.not_mem_nil
  | some state => exact hne cpu state hlookup

/-- A number that no interval holds is not resolved. -/
theorem resolveSequenceGap_eq_none {state : TraceCPUSequence} {n : UInt64}
    (h : i.resolveSequenceGap state n=none) :
    ∀ gap∈state.gaps, ¬(gap.first ≤ n ∧ n ≤ gap.last) := by
  unfold TraceIntegrity.resolveSequenceGap at h
  cases hfind : state.gaps.findIdx? (·.contains n) with
  | none =>
    intro gap hgap hn
    have hnot := List.findIdx?_eq_none_iff.mp hfind gap hgap
    rw [(contains_iff gap n).mpr hn] at hnot
    exact Bool.noConfusion hnot
  | some index =>
    obtain ⟨hlt,-⟩ := List.findIdx?_eq_some_iff_getElem.mp hfind
    rw [hfind] at h
    dsimp only at h
    rw [List.getElem?_eq_getElem hlt] at h
    nomatch h

/-- A resolved number is removed from an interval that held it. -/
theorem resolveSequenceGap_eq_some {state state' : TraceCPUSequence} {n : UInt64}
    {i' : TraceIntegrity} (h : i.resolveSequenceGap state n=some (i',state')) :
    ∃ index gap, state.gaps[index]?=some gap ∧ (gap.first ≤ n ∧ n ≤ gap.last) ∧
      i'=i.resolveGroup gap.group ∧
      state'={state with gaps := removeSequenceFromGap state.gaps index gap n} := by
  unfold TraceIntegrity.resolveSequenceGap at h
  cases hfind : state.gaps.findIdx? (·.contains n) with
  | none =>
    rw [hfind] at h
    nomatch h
  | some index =>
    obtain ⟨hlt,hcontains,-⟩ := List.findIdx?_eq_some_iff_getElem.mp hfind
    rw [hfind] at h
    dsimp only at h
    rw [List.getElem?_eq_getElem hlt,Option.map_some,Option.some.injEq] at h
    obtain ⟨rfl,rfl⟩ := Prod.mk.inj h
    exact ⟨index,state.gaps[index],List.getElem?_eq_getElem hlt,(contains_iff _ _).mp hcontains,
      rfl,rfl⟩

/-- Charging a group of a sound ledger: none of the guards applies. -/
theorem resolveGroup_fields {ref : GroupRef} {g : TraceSequenceGapGroup}
    (hg : i.groups[ref]?=some g) (hne : g.remaining≠0) :
    (i.resolveGroup (some ref)).cpus=i.cpus ∧
    (i.resolveGroup (some ref)).groups.map (·.remaining)=
      (i.groups.map (·.remaining)).set ref (g.remaining-1) ∧
    (i.resolveGroup (some ref)).snapshot.estimatedLost=
      (if i.snapshot.estimatedLost≠0 then i.snapshot.estimatedLost-1
        else i.snapshot.estimatedLost) ∧
    (i.resolveGroup (some ref)).snapshot.streamGaps=
      if g.remaining-1=0 ∧ i.snapshot.streamGaps≠0 then i.snapshot.streamGaps-1
        else i.snapshot.streamGaps := by
  unfold TraceIntegrity.resolveGroup
  rw [Option.bind_some,hg,Option.map_some]
  dsimp only
  rw [if_neg hne]
  refine ⟨rfl,?_,rfl,rfl⟩
  rw [List.map_set]

/-- The next number of a cpu. -/
theorem observeSequence_next {ev : TraceEventEnvelope} (hgaps : GapsNonempty i)
    (h : ev.seq=i.expectedSequence ev.cpu) :
    Step (delivery ev) (ledger i) (ledger (i.observeSequence ev).1) ∧
      GapsNonempty (i.observeSequence ev).1 := by
  have hcpus : (i.observeSequence ev).1.cpus=i.cpus.insert ev.cpu
      {cpuState i ev.cpu with sequence := ev.seq, record := i.records} := by
    unfold TraceIntegrity.observeSequence
    dsimp only
    rw [if_pos h]
    rfl
  constructor
  · have hstep := Step.next (l := ledger i) (d := delivery ev) h
    convert hstep using 1
    rw [ledger_insert hcpus]
    unfold TraceIntegrity.observeSequence
    dsimp only
    rw [if_pos h,points_split i ev.cpu]
    rfl
  · exact gapsNonempty_insert hgaps hcpus (cpuState_nonempty hgaps)

/-- The intervals of a jump hold the words it passed. -/
theorem gapListPoints_skippedGaps (cpu : UInt32) (e s : UInt64) (ref : GroupRef) :
    gapListPoints cpu (skippedGaps e (s-1) ref)=jumpPoints cpu ref e s := by
  rw [skippedGaps,jumpPoints,walk]
  split_ifs with hwrap
  · rw [gapListPoints_cons,gapListPoints_nil,add_zero]
    rfl
  · rw [gapListPoints_cons,gapListPoints_cons,gapListPoints_nil,add_zero,Multiset.map_add]
    rfl

theorem skippedGaps_nonempty (e s : UInt64) (ref : GroupRef) :
    ∀ gap∈skippedGaps e (s-1) ref, gap.first ≤ gap.last := by
  intro gap hgap
  unfold skippedGaps at hgap
  split_ifs at hgap with hwrap
  · rw [List.mem_singleton] at hgap
    rw [hgap]
    exact hwrap
  · rw [List.mem_cons,List.mem_singleton] at hgap
    rcases hgap with rfl | rfl
    · dsimp only
      grind
    · dsimp only
      grind

/-- A forward jump. -/
theorem observeSequence_jump {ev : TraceEventEnvelope} (hgaps : GapsNonempty i)
    (hne : ev.seq≠i.expectedSequence ev.cpu)
    (h : ev.seq-i.expectedSequence ev.cpu < traceSequenceForwardLimit) :
    Step (delivery ev) (ledger i) (ledger (i.observeSequence ev).1) ∧
      GapsNonempty (i.observeSequence ev).1 := by
  have hcpus : (i.observeSequence ev).1.cpus=i.cpus.insert ev.cpu
      {sequence := ev.seq, record := i.records,
        gaps := (cpuState i ev.cpu).gaps ++
          skippedGaps (i.expectedSequence ev.cpu) (ev.seq-1) i.groups.length} := by
    unfold TraceIntegrity.observeSequence TraceIntegrity.addSequenceGap
    dsimp only
    rw [if_neg hne,if_pos h]
    rfl
  constructor
  · have hstep := Step.jump (l := ledger i) (d := delivery ev) hne h
    convert hstep using 1
    rw [ledger_insert hcpus]
    unfold TraceIntegrity.observeSequence TraceIntegrity.addSequenceGap
    dsimp only
    rw [if_neg hne,if_pos h,points_split i ev.cpu,cpuPoints,cpuPoints,gapListPoints_append,
      gapListPoints_skippedGaps,List.map_append,add_right_comm]
    unfold ledger
    dsimp only
    rw [List.length_map]
    rfl
  · refine gapsNonempty_insert hgaps hcpus ?_
    intro gap hgap
    rcases List.mem_append.mp hgap with hold | hnew
    · exact cpuState_nonempty hgaps gap hold
    · exact skippedGaps_nonempty _ _ _ gap hnew

/-- The group of a held number is allocated with a nonzero balance. -/
theorem held_group (hs : Sound (ledger i)) {gap : TraceSequenceGap} {n : UInt64}
    (hgap : gap∈(cpuState i cpu).gaps) (hn : gap.first ≤ n ∧ n ≤ gap.last) :
    ∃ ref g, gap.group=some ref ∧ i.groups[ref]?=some g ∧ g.remaining≠0 := by
  have hp : (cpu,gap.group,n)∈(ledger i).points :=
    mem_points_iff.mpr ⟨gap,hgap,(mem_gapPoints cpu).mpr ⟨rfl,rfl,hn⟩⟩
  obtain ⟨ref,href,hgroup⟩ := hs.owned _ hp
  have hlt : ref < i.groups.length := by
    rw [ledger,List.length_map] at href
    exact href
  refine ⟨ref,i.groups[ref],hgroup,List.getElem?_eq_getElem hlt,?_⟩
  have hbalance : (ledger i).remaining[ref]?=some i.groups[ref].remaining := by
    rw [ledger,List.getElem?_map,List.getElem?_eq_getElem hlt]
    rfl
  have hcharge := hs.charged ref _ hbalance
  have hpos : 0 < (ledger i).charge ref := by
    rw [Ledger.charge,Multiset.countP_pos]
    exact ⟨_,hp,hgroup⟩
  intro hzero
  rw [hzero,UInt64.toNat_zero] at hcharge
  omega

/-- A cpu with an interval has been seen, so writing its sequence back keeps
what it expects. -/
theorem update_expectedSequence {gap : TraceSequenceGap} (hgap : gap∈(cpuState i cpu).gaps) :
    Function.update i.expectedSequence cpu ((cpuState i cpu).sequence+1)=
      i.expectedSequence := by
  have hvalue : i.expectedSequence cpu=(cpuState i cpu).sequence+1 := by
    rw [TraceIntegrity.expectedSequence]
    cases hlookup : i.cpus.lookup cpu with
    | none =>
      rw [cpuState,hlookup] at hgap
      exact absurd hgap List.not_mem_nil
    | some state => rw [cpuState,hlookup,Option.getD_some]
  rw [←hvalue,Function.update_eq_self]

/-- Taking a held number out of its interval and charging its group is a late
delivery. -/
theorem step_late {d : Delivery UInt32} {i' : TraceIntegrity} {state : TraceCPUSequence}
    {index : ℕ} {gap : TraceSequenceGap} {ref : GroupRef} {g : TraceSequenceGapGroup}
    (h : ¬d.2-i.expectedSequence d.1 < traceSequenceForwardLimit)
    (hindex : (cpuState i d.1).gaps[index]?=some gap) (hn : gap.first ≤ d.2 ∧ d.2 ≤ gap.last)
    (hgroup : gap.group=some ref) (hg : i.groups[ref]?=some g) (hbalance : g.remaining≠0)
    (hstate : state={cpuState i d.1 with
      gaps := removeSequenceFromGap (cpuState i d.1).gaps index gap d.2})
    (hcpus : i'.cpus=i.cpus.insert d.1 state)
    (hremaining : i'.groups.map (·.remaining)=
      (i.groups.map (·.remaining)).set ref (g.remaining-1))
    (hlost : i'.snapshot.estimatedLost=(if i.snapshot.estimatedLost≠0 then
      i.snapshot.estimatedLost-1 else i.snapshot.estimatedLost))
    (hstream : i'.snapshot.streamGaps=if g.remaining-1=0 ∧ i.snapshot.streamGaps≠0 then
      i.snapshot.streamGaps-1 else i.snapshot.streamGaps) :
    Step d (ledger i) (ledger i') := by
  have hpoints : (ledger i).points=(d.1,some ref,d.2)::ₘ
      (cpuPoints d.1 state+mapSum cpuPoints (i.cpus.erase d.1)) := by
    have hcut := removeSequenceFromGap_points d.1 hindex hn
    rw [points_split i d.1,cpuPoints,cpuPoints,hcut,hstate,hgroup,Multiset.cons_add]
  have hbal : (ledger i).remaining[ref]?=some g.remaining := by
    rw [ledger,List.getElem?_map,hg]
    rfl
  have hlate : ¬d.2-(ledger i).expected d.1 < forwardLimit := h
  have hstep := Step.late hlate ref g.remaining _ hpoints hbal hbalance
  have hexpected : Function.update i.expectedSequence d.1 (state.sequence+1)=
      i.expectedSequence := by
    rw [hstate]
    exact update_expectedSequence (List.mem_of_getElem? hindex)
  convert hstep using 1
  rw [ledger_insert hcpus,hremaining,hlost,hstream,hexpected]
  rfl

/-- Counting a late record leaves the stream accounting alone. -/
def countLate (i : TraceIntegrity) : TraceIntegrity :=
  {i with snapshot := {i.snapshot with
    discontinuities := i.snapshot.discontinuities+1
    sequenceReorders := i.snapshot.sequenceReorders+1}}

theorem countLate_sameStream (i : TraceIntegrity) : SameStream i (countLate i) :=
  ⟨rfl,rfl,rfl,rfl,rfl⟩

/-- Result of the sequence check on a late record. -/
theorem observeSequence_late_eq {ev : TraceEventEnvelope}
    (h : ¬ev.seq-i.expectedSequence ev.cpu < traceSequenceForwardLimit) :
    i.observeSequence ev=match (countLate i).resolveSequenceGap (cpuState i ev.cpu) ev.seq with
      | some (i',state) => ({i' with cpus := i'.cpus.insert ev.cpu state},
          ⟨i.expectedSequence ev.cpu,(cpuState i ev.cpu).record,none,false⟩)
      | none => (countLate i,
          ⟨i.expectedSequence ev.cpu,(cpuState i ev.cpu).record,none,true⟩) := by
  have hne : ev.seq≠i.expectedSequence ev.cpu := by
    intro heq
    rw [heq,sub_self] at h
    exact h (by decide)
  unfold TraceIntegrity.observeSequence
  dsimp only
  rw [if_neg hne,if_neg h]
  rfl

/-- A late number is taken out of its interval and group, or it is invalid. -/
theorem observeSequence_late {ev : TraceEventEnvelope} (hgaps : GapsNonempty i)
    (hs : Sound (ledger i))
    (h : ¬ev.seq-i.expectedSequence ev.cpu < traceSequenceForwardLimit) :
    Step (delivery ev) (ledger i) (ledger (i.observeSequence ev).1) ∧
      GapsNonempty (i.observeSequence ev).1 ∧
      ((i.observeSequence ev).2.invalid=true ↔
        ¬∃ gap∈(cpuState i ev.cpu).gaps, gap.first ≤ ev.seq ∧ ev.seq ≤ gap.last) := by
  have hsame := countLate_sameStream i
  rw [observeSequence_late_eq h]
  cases hresolve : (countLate i).resolveSequenceGap (cpuState i ev.cpu) ev.seq with
  | none =>
    have hnone := resolveSequenceGap_eq_none hresolve
    have hfree : ¬∃ gap∈(cpuState i ev.cpu).gaps, gap.first ≤ ev.seq ∧ ev.seq ≤ gap.last :=
      fun ⟨gap,hgap,hn⟩ => hnone gap hgap hn
    refine ⟨?_,hsame.gapsNonempty hgaps,⟨fun _ => hfree,fun _ => rfl⟩⟩
    dsimp only
    rw [hsame.ledger]
    refine Step.invalid h (fun group hp => hfree ?_)
    exact held_iff.mp ⟨group,hp⟩
  | some pair =>
    obtain ⟨i',state⟩ := pair
    obtain ⟨index,gap,hindex,hn,rfl,hstate⟩ := resolveSequenceGap_eq_some hresolve
    have hmem : gap∈(cpuState i ev.cpu).gaps := List.mem_of_getElem? hindex
    obtain ⟨ref,g,hgroup,hg,hbalance⟩ := held_group hs hmem hn
    obtain ⟨hcpus,hremaining,hlost,hstream⟩ :=
      resolveGroup_fields (i := countLate i) (show (countLate i).groups[ref]?=some g from hg)
        hbalance
    rw [←hgroup] at hcpus hremaining hlost hstream
    dsimp only
    rw [hcpus]
    refine ⟨?_,?_,?_⟩
    · exact step_late (d := delivery ev) h hindex hn hgroup hg hbalance hstate rfl
        hremaining hlost hstream
    · refine gapsNonempty_insert hgaps rfl ?_
      rw [hstate]
      exact removeSequenceFromGap_nonempty hn (cpuState_nonempty hgaps)
    · refine ⟨fun hinvalid => ?_,fun hfree => absurd ⟨gap,hmem,hn⟩ hfree⟩
      nomatch hinvalid

/-- The sequence check writes only the stream accounting. -/
structure StreamOnly (i j : TraceIntegrity) : Prop where
  tasks : j.tasks=i.tasks
  records : j.records=i.records
  effects : j.effects=i.effects
  hasState : j.hasState=i.hasState
  hasFDState : j.hasFDState=i.hasFDState
  hasNotify : j.hasNotify=i.hasNotify
  snapshot : ∃ discontinuities reorders gaps lost count, j.snapshot={i.snapshot with
    discontinuities := discontinuities
    sequenceReorders := reorders
    streamGaps := gaps
    estimatedLost := lost
    lostCount := count}

theorem resolveGroup_streamOnly (i : TraceIntegrity) (group : Option GroupRef) :
    StreamOnly i (i.resolveGroup group) := by
  unfold TraceIntegrity.resolveGroup
  split
  · exact ⟨rfl,rfl,rfl,rfl,rfl,rfl,_,_,_,_,_,rfl⟩
  · dsimp only
    split_ifs
    all_goals exact ⟨rfl,rfl,rfl,rfl,rfl,rfl,_,_,_,_,_,rfl⟩

theorem observeSequence_streamOnly (i : TraceIntegrity) (ev : TraceEventEnvelope) :
    StreamOnly i (i.observeSequence ev).1 := by
  by_cases hlt : ev.seq-i.expectedSequence ev.cpu < traceSequenceForwardLimit
  · unfold TraceIntegrity.observeSequence
    dsimp only
    by_cases heq : ev.seq=i.expectedSequence ev.cpu
    · rw [if_pos heq]
      exact ⟨rfl,rfl,rfl,rfl,rfl,rfl,_,_,_,_,_,rfl⟩
    · rw [if_neg heq,if_pos hlt]
      exact ⟨rfl,rfl,rfl,rfl,rfl,rfl,_,_,_,_,_,rfl⟩
  · rw [observeSequence_late_eq hlt]
    cases hresolve : (countLate i).resolveSequenceGap (cpuState i ev.cpu) ev.seq with
    | none => exact ⟨rfl,rfl,rfl,rfl,rfl,rfl,_,_,_,_,_,rfl⟩
    | some pair =>
      obtain ⟨i',state⟩ := pair
      obtain ⟨index,gap,-,-,rfl,-⟩ := resolveSequenceGap_eq_some hresolve
      obtain ⟨h₁,h₂,h₃,h₄,h₅,h₆,d,r,g,l,c,h⟩ := resolveGroup_streamOnly (countLate i) gap.group
      exact ⟨h₁,h₂,h₃,h₄,h₅,h₆,d,r,g,l,c,h⟩

/-- Every sequenced record is one ledger step. -/
theorem observeSequence_step (ev : TraceEventEnvelope) (hgaps : GapsNonempty i)
    (hs : Sound (ledger i)) :
    Step (delivery ev) (ledger i) (ledger (i.observeSequence ev).1) ∧
      GapsNonempty (i.observeSequence ev).1 := by
  by_cases heq : ev.seq=i.expectedSequence ev.cpu
  · exact observeSequence_next hgaps heq
  by_cases hlt : ev.seq-i.expectedSequence ev.cpu < traceSequenceForwardLimit
  · exact observeSequence_jump hgaps heq hlt
  · obtain ⟨hstep,hgaps',-⟩ := observeSequence_late hgaps hs hlt
    exact ⟨hstep,hgaps'⟩

theorem countRecord_sameStream (i : TraceIntegrity) : SameStream i i.countRecord :=
  ⟨rfl,rfl,rfl,rfl,rfl⟩

/-- Observing a sequenced record is one ledger step. -/
theorem observe_step {ev : TraceEventEnvelope} (hlegacy : ev.legacyIntegrity=false)
    (hgaps : GapsNonempty i) (hs : Sound (ledger i)) :
    Step (delivery ev) (ledger i) (ledger (i.observe ev).1) ∧
      GapsNonempty (i.observe ev).1 := by
  have hcount := countRecord_sameStream i
  have hafter := observe_sameStream i ev hlegacy
  have hstep := observeSequence_step ev (hcount.gapsNonempty hgaps)
    (by rw [hcount.ledger]; exact hs)
  rw [hcount.ledger] at hstep
  rw [hafter.ledger]
  exact ⟨hstep.1,hafter.gapsNonempty hstep.2⟩

/-- A fresh observer denotes the empty ledger. -/
theorem ledger_newTraceIntegrity (state fdState notify : Bool) :
    ledger (newTraceIntegrity state fdState notify)=Ledger.initial := by
  unfold ledger newTraceIntegrity Ledger.initial
  congr 1

/-- A run of the observer is a run of its ledger. -/
theorem observeRun_refines (state fdState notify : Bool) {evs : List TraceEventEnvelope}
    (hlegacy : ∀ ev∈evs, ev.legacyIntegrity=false) :
    Run (deliveries evs) (ledger (observeRun (newTraceIntegrity state fdState notify) evs)) ∧
      GapsNonempty (observeRun (newTraceIntegrity state fdState notify) evs) := by
  induction evs using List.reverseRecOn with
  | nil =>
    constructor
    · rw [observeRun,List.foldl_nil,ledger_newTraceIntegrity]
      exact Run.nil
    · intro cpu found hlookup
      nomatch hlookup
  | append_singleton evs ev ih =>
    obtain ⟨hrun,hgaps⟩ := ih (fun x hx => hlegacy x (List.mem_append_left _ hx))
    have hlast := hlegacy ev (List.mem_append_right _ List.mem_cons_self)
    have hstep := observe_step hlast hgaps (Run.sound hrun)
    rw [deliveries_snoc,observeRun_snoc]
    exact ⟨hrun.snoc hstep.1,hstep.2⟩

end Sequence

end StraceGo.EventIntegrityLedger

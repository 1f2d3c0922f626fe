import StraceGo.EventIntegritySequence

/-!
# Duplicates taint and reordering does not

Runs of sequenced records without loss reports, numbered in the lower half of
the word. A record taints the session exactly when its cpu and number were
already observed. The outcome of a run without duplicates depends only on the
set of records, not on their order, except for the loss counter, which also
needs that the missing numbers fit it all along.
-/

namespace StraceGo.EventIntegrityReorder

open FiniteMaps EventEnvelope EventIntegrity EventIntegrityLedger EventIntegritySequence
open IntervalPoints SequenceLedger SequenceHistory

/-- What a taint writes into the snapshot: epoch, count, flag, cause and record. -/
def taintOf (s : TraceIntegritySnapshot) : UInt64×UInt64×Bool×Option TaintReason×UInt64 :=
  (s.epoch,s.taintTransitions,s.tainted,s.reason,s.detectedAtRecord)

section TaintFrame

variable (i : TraceIntegrity) (ev : TraceEventEnvelope)

/-- The sequence check itself never taints. -/
theorem observeSequence_taintOf :
    taintOf (i.observeSequence ev).1.snapshot=taintOf i.snapshot ∧
      (i.observeSequence ev).1.records=i.records := by
  have hframe := observeSequence_streamOnly i ev
  obtain ⟨d,r,g,l,c,hsnapshot⟩ := hframe.snapshot
  rw [hsnapshot]
  exact ⟨rfl,hframe.records⟩

theorem observeLossTime_taintOf (ns : UInt64) :
    taintOf (i.observeLossTime ns).snapshot=taintOf i.snapshot ∧
      (i.observeLossTime ns).records=i.records := by
  unfold TraceIntegrity.observeLossTime
  split_ifs <;> exact ⟨rfl,rfl⟩

theorem observeLossEpoch_taintOf (epoch : UInt64) :
    taintOf (i.observeLossEpoch epoch).snapshot=taintOf i.snapshot ∧
      (i.observeLossEpoch epoch).records=i.records := by
  unfold TraceIntegrity.observeLossEpoch
  split_ifs <;> exact ⟨rfl,rfl⟩

theorem observeTaskLifecycle_snapshot : (i.observeTaskLifecycle ev).snapshot=i.snapshot := by
  unfold TraceIntegrity.observeTaskLifecycle
  dsimp only
  split_ifs <;> rfl

theorem observeTask_taintOf : taintOf (i.observeTask ev).snapshot=taintOf i.snapshot := by
  unfold TraceIntegrity.observeTask
  by_cases htid : ev.tid=0
  · rw [if_pos htid]
  rw [if_neg htid]
  by_cases hlife : ev.isLifecycle=true
  · rw [if_pos hlife,observeTaskLifecycle_snapshot]
  rw [if_neg hlife]
  dsimp only
  split_ifs <;> rfl

end TaintFrame

/-- A sequenced record in the lower half of the word without a loss report. -/
structure Lossless (ev : TraceEventEnvelope) : Prop where
  /-- The record carries a sequence number. -/
  sequenced : ev.legacyIntegrity=false
  /-- The number is positive. -/
  positive : 1 ≤ ev.seq
  /-- The number is in the lower half of the word. -/
  half : ev.seq < 0x8000000000000000
  /-- No loss epoch is reported. -/
  lossEpoch : ev.lossEpoch=0
  /-- No loss time is reported. -/
  lossTime : ev.lossTimeNS=0

/-- The record raised one taint with the discontinuity cause. -/
def TaintsAt (i j : TraceIntegrity) : Prop :=
  taintOf j.snapshot=(i.snapshot.epoch+1,i.snapshot.taintTransitions+1,true,
    some .sequenceDiscontinuity,i.records+1)

section Records

variable {i : TraceIntegrity} {ev : TraceEventEnvelope}

/-- A record is invalid exactly when it is late and held by no interval. -/
theorem observeSequence_invalid_iff (hgaps : GapsNonempty i) (hs : Sound (ledger i)) :
    (i.observeSequence ev).2.invalid=true ↔
      ¬ev.seq-i.expectedSequence ev.cpu < traceSequenceForwardLimit ∧ ¬InGap i ev.cpu ev.seq := by
  by_cases hlt : ev.seq-i.expectedSequence ev.cpu < traceSequenceForwardLimit
  · have hvalid : (i.observeSequence ev).2.invalid=false := by
      unfold TraceIntegrity.observeSequence
      dsimp only
      by_cases heq : ev.seq=i.expectedSequence ev.cpu
      · rw [if_pos heq]
      · rw [if_neg heq,if_pos hlt]
    rw [hvalid]
    refine ⟨fun h => ?_,fun h => absurd hlt h.1⟩
    nomatch h
  · obtain ⟨-,-,hinvalid⟩ := observeSequence_late hgaps hs hlt
    rw [hinvalid]
    exact ⟨fun h => ⟨hlt,h⟩,fun h => h.2⟩

/-- Taint fields after a record without loss report. -/
theorem observe_taintOf (hev : Lossless ev) :
    taintOf (i.observe ev).1.snapshot=
      if (i.countRecord.observeSequence ev).2.invalid=true then
        (i.snapshot.epoch+1,i.snapshot.taintTransitions+1,true,
          some .sequenceDiscontinuity,i.records+1)
      else taintOf i.snapshot := by
  unfold TraceIntegrity.observe
  rw [if_neg (by simp [hev.sequenced])]
  dsimp only
  rw [observeTask_taintOf]
  unfold TraceIntegrity.observeStream
  dsimp only
  obtain ⟨hseqTaint,hseqRecords⟩ := observeSequence_taintOf i.countRecord ev
  generalize i.countRecord.observeSequence ev=r at *
  rw [hev.lossEpoch,hev.lossTime]
  obtain ⟨hepochTaint,hepochRecords⟩ := observeLossEpoch_taintOf r.1 0
  obtain ⟨htimeTaint,htimeRecords⟩ := observeLossTime_taintOf (r.1.observeLossEpoch 0) 0
  generalize (r.1.observeLossEpoch 0).observeLossTime 0=j at *
  have htaint : taintOf j.snapshot=taintOf i.snapshot :=
    htimeTaint.trans (hepochTaint.trans hseqTaint)
  have hrecords : j.records=i.records+1 := htimeRecords.trans (hepochRecords.trans hseqRecords)
  have hno : (decide (r.1.snapshot.lossEpoch < 0) || ((0 : UInt64) != 0 && !j.snapshot.tainted))=
      false := by
    simp
  rw [hno]
  unfold TraceIntegrity.raise
  rw [if_neg (by simp)]
  split_ifs
  · obtain ⟨hepoch,hrest⟩ := Prod.mk.inj htaint
    obtain ⟨htransitions,-⟩ := Prod.mk.inj hrest
    rw [←hepoch,←htransitions,←hrecords]
    rfl
  · exact htaint

end Records

/-- Numbers observed on one cpu, in order of observation. -/
def sequencesOf (cpu : UInt32) (evs : List TraceEventEnvelope) : List ℕ :=
  ((deliveries evs).filter (fun d => d.1=cpu)).map (fun d => d.2.toNat)

section Runs

variable (state fdState notify : Bool) {evs evs' : List TraceEventEnvelope}

theorem windowed_of_lossless (hevs : ∀ ev∈evs, Lossless ev) : Windowed (deliveries evs) := by
  apply windowed_deliveries
  intro ev hev
  exact ⟨(hevs ev hev).positive,(hevs ev hev).half⟩

theorem sequenced_of_lossless (hevs : ∀ ev∈evs, Lossless ev) :
    ∀ ev∈evs, ev.legacyIntegrity=false := fun ev hev => (hevs ev hev).sequenced

/-- Intervals of a lossless run hold what is below the high water and was not
observed. -/
theorem inGap_iff (hevs : ∀ ev∈evs, Lossless ev) (cpu : UInt32) (n : UInt64) :
    InGap (observeRun (newTraceIntegrity state fdState notify) evs) cpu n ↔
      1 ≤ n.toNat ∧ n.toNat ≤ highWater cpu (deliveries evs) ∧ (cpu,n)∉deliveries evs := by
  have hwindow := windowed_of_lossless hevs
  obtain ⟨hrun,-⟩ := observeRun_refines state fdState notify (sequenced_of_lossless hevs)
  rw [inGap_iff_key,(Run.faithful hrun hwindow.noLap).missing,hwindow.natural.missing]

/-- The sequence check rejects exactly the repeated records of a lossless run. -/
theorem invalid_iff_duplicate {ev : TraceEventEnvelope} (hevs : ∀ x∈evs ++ [ev], Lossless x) :
    ((observeRun (newTraceIntegrity state fdState notify) evs).countRecord.observeSequence
      ev).2.invalid=true ↔ delivery ev∈deliveries evs := by
  have hold : ∀ x∈evs, Lossless x := fun x hx => hevs x (List.mem_append_left _ hx)
  obtain ⟨hrun,hgaps⟩ := observeRun_refines state fdState notify (sequenced_of_lossless hold)
  have hgap := inGap_iff state fdState notify hold ev.cpu ev.seq
  have hwindow := windowed_of_lossless hevs
  rw [deliveries_snoc] at hwindow
  obtain ⟨hone,hahead,hbehind⟩ := hwindow (deliveries evs) (delivery ev) [] rfl
  have hacc := accepted_iff hwindow.of_snoc.natural hahead hbehind
  have hsame := countRecord_sameStream (observeRun (newTraceIntegrity state fdState notify) evs)
  have hexpected := Run.expected hrun ev.cpu
  generalize observeRun (newTraceIntegrity state fdState notify) evs=i at *
  rw [observeSequence_invalid_iff (hsame.gapsNonempty hgaps)
    (by rw [hsame.ledger]; exact Run.sound hrun)]
  have hcount : InGap i.countRecord ev.cpu ev.seq ↔ InGap i ev.cpu ev.seq := Iff.rfl
  have hlate : ev.seq-i.countRecord.expectedSequence ev.cpu < traceSequenceForwardLimit ↔
      (delivery ev).2-expectedAfter (delivery ev).1 (deliveries evs) < forwardLimit := by
    rw [show (delivery ev).1=ev.cpu from rfl,←hexpected]
    exact Iff.rfl
  rw [hcount,hgap,hlate,hacc]
  have hmem : delivery ev∈deliveries evs → (delivery ev).2.toNat ≤ highWater _ (deliveries evs) :=
    le_highWater
  constructor
  · rintro ⟨hle,hnot⟩
    by_contra hfresh
    exact hnot ⟨hone,Nat.le_of_not_lt hle,hfresh⟩
  · intro hdup
    exact ⟨Nat.not_lt_of_le (hmem hdup),fun h => h.2.2 hdup⟩

/-- A record taints exactly when its number was already observed on its cpu,
and otherwise leaves the taint fields alone. -/
theorem taint_iff_duplicate {ev : TraceEventEnvelope} (hevs : ∀ x∈evs ++ [ev], Lossless x) :
    (TaintsAt (observeRun (newTraceIntegrity state fdState notify) evs)
        ((observeRun (newTraceIntegrity state fdState notify) evs).observe ev).1 ↔
      delivery ev∈deliveries evs) ∧
    (delivery ev∉deliveries evs →
      taintOf ((observeRun (newTraceIntegrity state fdState notify) evs).observe ev).1.snapshot=
        taintOf (observeRun (newTraceIntegrity state fdState notify) evs).snapshot) := by
  have hinvalid := invalid_iff_duplicate state fdState notify hevs
  have htaint := observe_taintOf (i := observeRun (newTraceIntegrity state fdState notify) evs)
    (hevs ev (List.mem_append_right _ List.mem_cons_self))
  unfold TaintsAt
  by_cases hdup : delivery ev∈deliveries evs
  · rw [if_pos (hinvalid.mpr hdup)] at htaint
    rw [htaint]
    exact ⟨⟨fun _ => hdup,fun _ => rfl⟩,fun h => absurd hdup h⟩
  · rw [if_neg (fun h => hdup (hinvalid.mp h))] at htaint
    rw [htaint]
    refine ⟨⟨fun h => ?_,fun h => absurd h hdup⟩,fun _ => rfl⟩
    have hepoch := (Prod.mk.inj h).1
    exact absurd (left_eq_add.mp hepoch) (by decide)

/-- A run without duplicates is never tainted. -/
theorem untainted_of_nodup (hevs : ∀ ev∈evs, Lossless ev) (hnodup : (deliveries evs).Nodup) :
    (observeRun (newTraceIntegrity state fdState notify) evs).snapshot.tainted=false := by
  have hfields : taintOf (observeRun (newTraceIntegrity state fdState notify) evs).snapshot=
      (0,0,false,none,0) := by
    induction evs using List.reverseRecOn with
    | nil => rfl
    | append_singleton evs ev ih =>
      rw [deliveries_snoc] at hnodup
      obtain ⟨hold,-,hfresh⟩ := List.nodup_append.mp hnodup
      have hnot : delivery ev∉deliveries evs :=
        fun h => hfresh _ h _ List.mem_cons_self rfl
      rw [observeRun_snoc,(taint_iff_duplicate state fdState notify hevs).2 hnot]
      exact ih (fun x hx => hevs x (List.mem_append_left _ hx)) hold
  exact congrArg (fun t => t.2.2.1) hfields

/-- The counters are exact while the missing numbers fit them. -/
theorem exact_of_fits (hlegacy : ∀ ev∈evs, ev.legacyIntegrity=false)
    (hfit : ∀ before since, evs=before ++ since →
      missingTotal (observeRun (newTraceIntegrity state fdState notify) before) < 2^64) :
    Exact (ledger (observeRun (newTraceIntegrity state fdState notify) evs)) := by
  induction evs using List.reverseRecOn with
  | nil =>
    rw [observeRun,List.foldl_nil,ledger_newTraceIntegrity]
    exact exact_initial
  | append_singleton evs ev ih =>
    have hold := fun x hx => hlegacy x (List.mem_append_left [ev] hx)
    have hprev := ih hold (fun before since hsplit =>
      hfit before (since ++ [ev]) (by rw [hsplit,List.append_assoc]))
    obtain ⟨hrun,hgaps⟩ := observeRun_refines state fdState notify hold
    have hlast := hlegacy ev (List.mem_append_right _ List.mem_cons_self)
    have hstep := observe_step hlast hgaps (Run.sound hrun)
    have hroom := hfit (evs ++ [ev]) [] (List.append_nil _).symm
    rw [←card_points_eq_missingTotal] at hroom
    rw [observeRun_snoc] at hroom ⊢
    exact hstep.1.exact (Run.sound hrun) hprev hroom

/-- The high water depends only on the set of deliveries. -/
theorem highWater_congr {run run' : List (Delivery UInt32)} (h : ∀ d, d∈run ↔ d∈run')
    (cpu : UInt32) : highWater cpu run=highWater cpu run' := by
  have hle : ∀ run run' : List (Delivery UInt32), (∀ d, d∈run → d∈run') →
      highWater cpu run ≤ highWater cpu run' := by
    intro run run' hsub
    by_cases hzero : highWater cpu run=0
    · omega
    · obtain ⟨n,hmem,hn⟩ := exists_highWater hzero
      rw [←hn]
      exact le_highWater (hsub _ hmem)
  exact Nat.le_antisymm (hle _ _ (fun d => (h d).mp)) (hle _ _ (fun d => (h d).mpr))

/-- Permuted deliveries repeat nothing. -/
theorem nodup_of_permutations {count : UInt32 → ℕ}
    (hperm : ∀ cpu, (sequencesOf cpu evs).Perm (List.range' 1 (count cpu))) :
    (deliveries evs).Nodup := by
  rw [List.nodup_iff_count_le_one]
  intro d
  have hnodup : (sequencesOf d.1 evs).Nodup :=
    (hperm d.1).nodup_iff.mpr (List.nodup_range')
  have hfilter := hnodup.of_map
  have hcount := List.nodup_iff_count_le_one.mp hfilter d
  rwa [List.count_filter (by simp)] at hcount

/-- Complete permutations leave no interval. -/
theorem no_gap_of_permutations (hevs : ∀ ev∈evs, Lossless ev) {count : UInt32 → ℕ}
    (hperm : ∀ cpu, (sequencesOf cpu evs).Perm (List.range' 1 (count cpu)))
    (cpu : UInt32) (n : UInt64) :
    ¬InGap (observeRun (newTraceIntegrity state fdState notify) evs) cpu n := by
  rw [inGap_iff state fdState notify hevs]
  rintro ⟨hone,hle,hnot⟩
  have hmem : ∀ m, (cpu,m)∈deliveries evs ↔ m.toNat∈sequencesOf cpu evs := by
    intro m
    rw [sequencesOf,List.mem_map]
    constructor
    · intro h
      exact ⟨(cpu,m),List.mem_filter.mpr ⟨h,by simp⟩,rfl⟩
    · rintro ⟨d,hd,heq⟩
      obtain ⟨hin,hcpu⟩ := List.mem_filter.mp hd
      rw [decide_eq_true_eq] at hcpu
      rw [←hcpu,←UInt64.toNat_inj.mp heq]
      exact hin
  have hseen : highWater cpu (deliveries evs)≠0 := by omega
  obtain ⟨high,hhigh,hvalue⟩ := exists_highWater hseen
  rw [hmem,(hperm cpu).mem_iff,List.mem_range'_1] at hhigh
  rw [hmem,(hperm cpu).mem_iff,List.mem_range'_1] at hnot
  omega

end Runs

/-- Duplicate detection is exact and reordering is harmless: a record taints
exactly when it repeats one; complete permutations end clean; and two orders
of the same records end with the same intervals and high waters, and with the
same loss counter when the missing numbers fit it throughout. -/
theorem reordering_harmless (state fdState notify : Bool) :
    (∀ evs ev, (∀ x∈evs ++ [ev], Lossless x) →
      (TaintsAt (observeRun (newTraceIntegrity state fdState notify) evs)
        ((observeRun (newTraceIntegrity state fdState notify) evs).observe ev).1 ↔
        delivery ev∈deliveries evs) ∧
      (delivery ev∉deliveries evs →
        taintOf ((observeRun (newTraceIntegrity state fdState notify) evs).observe ev).1.snapshot=
          taintOf (observeRun (newTraceIntegrity state fdState notify) evs).snapshot)) ∧
    (∀ evs (count : UInt32 → ℕ), (∀ ev∈evs, Lossless ev) →
      (∀ cpu, (sequencesOf cpu evs).Perm (List.range' 1 (count cpu))) →
      (∀ before since, evs=before ++ since →
        (observeRun (newTraceIntegrity state fdState notify) before).snapshot.tainted=false) ∧
      (observeRun (newTraceIntegrity state fdState notify) evs).snapshot.estimatedLost=0 ∧
      (observeRun (newTraceIntegrity state fdState notify) evs).snapshot.streamGaps=0 ∧
      ∀ cpu, (cpuState (observeRun (newTraceIntegrity state fdState notify) evs) cpu).gaps=[]) ∧
    (∀ evs evs', (∀ ev∈evs, Lossless ev) → (∀ ev∈evs', Lossless ev) →
      (∀ d, d∈deliveries evs ↔ d∈deliveries evs') →
      (∀ cpu n, InGap (observeRun (newTraceIntegrity state fdState notify) evs) cpu n ↔
        InGap (observeRun (newTraceIntegrity state fdState notify) evs') cpu n) ∧
      (∀ cpu, (cpuState (observeRun (newTraceIntegrity state fdState notify) evs) cpu).sequence=
        (cpuState (observeRun (newTraceIntegrity state fdState notify) evs') cpu).sequence) ∧
      ((∀ before since, evs=before ++ since →
          missingTotal (observeRun (newTraceIntegrity state fdState notify) before) < 2^64) →
        (∀ before since, evs'=before ++ since →
          missingTotal (observeRun (newTraceIntegrity state fdState notify) before) < 2^64) →
        (observeRun (newTraceIntegrity state fdState notify) evs).snapshot.estimatedLost=
          (observeRun (newTraceIntegrity state fdState notify) evs').snapshot.estimatedLost)) := by
  refine ⟨?_,?_,?_⟩
  · intro evs ev hevs
    exact taint_iff_duplicate state fdState notify hevs
  · intro evs count hevs hperm
    have hnodup := nodup_of_permutations hperm
    have hempty := no_gap_of_permutations state fdState notify hevs hperm
    obtain ⟨hrun,hgaps⟩ := observeRun_refines state fdState notify (sequenced_of_lossless hevs)
    have hs := Run.sound hrun
    have hzero : (ledger (observeRun (newTraceIntegrity state fdState notify) evs)).points=0 := by
      rw [Multiset.eq_zero_iff_forall_notMem]
      intro p hp
      exact hempty p.1 p.2.2 (inGap_iff_key.mpr (Multiset.mem_map.mpr ⟨p,hp,rfl⟩))
    have hlost := hs.lost_le
    have hopen := hs.gaps_le.trans hs.openJumps_le
    rw [hzero,Multiset.card_zero,Nat.le_zero] at hlost hopen
    refine ⟨?_,UInt64.toNat_inj.mp hlost,UInt64.toNat_inj.mp hopen,?_⟩
    · intro before since hsplit
      rw [hsplit] at hevs hnodup
      rw [deliveries,List.map_append] at hnodup
      exact untainted_of_nodup state fdState notify
        (fun x hx => hevs x (List.mem_append_left _ hx)) hnodup.of_append_left
    · intro cpu
      rw [List.eq_nil_iff_forall_not_mem]
      intro gap hgap
      exact hempty cpu gap.first ⟨gap,hgap,UInt64.le_refl _,cpuState_nonempty hgaps gap hgap⟩
  · intro evs evs' hevs hevs' hsame
    have hgap : ∀ cpu n, InGap (observeRun (newTraceIntegrity state fdState notify) evs) cpu n ↔
        InGap (observeRun (newTraceIntegrity state fdState notify) evs') cpu n := by
      intro cpu n
      rw [inGap_iff state fdState notify hevs,inGap_iff state fdState notify hevs',hsame,
        highWater_congr hsame]
    refine ⟨hgap,?_,?_⟩
    · intro cpu
      rw [←UInt64.toNat_inj,
        sequence_eq_highWater state fdState notify (sequenced_of_lossless hevs)
          (windowed_of_lossless hevs),
        sequence_eq_highWater state fdState notify (sequenced_of_lossless hevs')
          (windowed_of_lossless hevs'),highWater_congr hsame]
    · intro hfit hfit'
      have hx := exact_of_fits state fdState notify (sequenced_of_lossless hevs) hfit
      have hx' := exact_of_fits state fdState notify (sequenced_of_lossless hevs') hfit'
      obtain ⟨hrun,-⟩ := observeRun_refines state fdState notify (sequenced_of_lossless hevs)
      obtain ⟨hrun',-⟩ := observeRun_refines state fdState notify (sequenced_of_lossless hevs')
      have hf := Run.faithful hrun (windowed_of_lossless hevs).noLap
      have hf' := Run.faithful hrun' (windowed_of_lossless hevs').noLap
      have hkeys := (Multiset.Nodup.ext hf.nodup hf'.nodup).mpr (by
        rintro ⟨cpu,n⟩
        rw [←inGap_iff_key,←inGap_iff_key]
        exact hgap cpu n)
      have hcard := congrArg Multiset.card hkeys
      rw [Multiset.card_map,Multiset.card_map,←hx.lost_eq,←hx'.lost_eq] at hcard
      exact UInt64.toNat_inj.mp hcard

/-- Two jumps and a late record, and the same records in another order. -/
def swappedRun : List TraceEventEnvelope :=
  [{eventType := .enter, cpu := 1, seq := 2},{eventType := .exit, cpu := 0, seq := 3},
    {eventType := .enter, cpu := 0, seq := 1}]

/-- The records of the swapped run from the other end. -/
def unswappedRun : List TraceEventEnvelope := swappedRun.reverse

instance (ev : TraceEventEnvelope) : Decidable (Lossless ev) :=
  decidable_of_iff (ev.legacyIntegrity=false ∧ 1 ≤ ev.seq ∧ ev.seq < 0x8000000000000000 ∧
      ev.lossEpoch=0 ∧ ev.lossTimeNS=0)
    ⟨fun ⟨h₁,h₂,h₃,h₄,h₅⟩ => ⟨h₁,h₂,h₃,h₄,h₅⟩,
      fun ⟨h₁,h₂,h₃,h₄,h₅⟩ => ⟨h₁,h₂,h₃,h₄,h₅⟩⟩

theorem swappedRun_harmless :
    (∀ cpu n, InGap (observeRun (newTraceIntegrity true true false) swappedRun) cpu n ↔
      InGap (observeRun (newTraceIntegrity true true false) unswappedRun) cpu n) ∧
    ¬TaintsAt (observeRun (newTraceIntegrity true true false) swappedRun)
      ((observeRun (newTraceIntegrity true true false) swappedRun).observe
        {eventType := .exit, cpu := 0, seq := 2}).1 := by
  obtain ⟨htaint,-,hsame⟩ := reordering_harmless true true false
  constructor
  · refine (hsame swappedRun unswappedRun (by decide) (by decide) ?_).1
    intro d
    rw [unswappedRun,deliveries,deliveries,List.map_reverse,List.mem_reverse]
  · rw [(htaint swappedRun {eventType := .exit, cpu := 0, seq := 2} (by decide)).1]
    decide

/-- Three cpus whose jumps together overflow the loss counter. -/
def overflowRun : List TraceEventEnvelope :=
  [{eventType := .enter, cpu := 0, seq := 0x7fffffffffffffff},
    {eventType := .enter, cpu := 1, seq := 0x7fffffffffffffff},
    {eventType := .enter, cpu := 2, seq := 5},{eventType := .exit, cpu := 2, seq := 1}]

/-- The same records with the last two exchanged. -/
def overflowRun' : List TraceEventEnvelope :=
  [{eventType := .enter, cpu := 0, seq := 0x7fffffffffffffff},
    {eventType := .enter, cpu := 1, seq := 0x7fffffffffffffff},
    {eventType := .exit, cpu := 2, seq := 1},{eventType := .enter, cpu := 2, seq := 5}]

/-- Two orders of the same records that end with different loss counters. -/
theorem overflowRun_lost_differs :
    (∀ ev∈overflowRun, Lossless ev) ∧ (∀ ev∈overflowRun', Lossless ev) ∧
    (deliveries overflowRun).Nodup ∧ (deliveries overflowRun).Perm (deliveries overflowRun') ∧
    (observeRun (newTraceIntegrity false false false) overflowRun).snapshot.estimatedLost=0 ∧
    (observeRun (newTraceIntegrity false false false) overflowRun').snapshot.estimatedLost=
      0xffffffffffffffff := by
  refine ⟨by decide,by decide,by decide,by decide,by decide +kernel,by decide +kernel⟩

end StraceGo.EventIntegrityReorder

import StraceGo.EventIntegritySequence

/-!
# Conservation against the producer's counters

The finalizer compares the producer's attempt counters with the high-water
sequences. Every attempt of a run of distinct records is then observed,
estimated as lost or counted as unobserved tail, and no loss of either kind
leaves the session untainted.
-/

namespace StraceGo.EventIntegrityFinalize

open FiniteMaps EventEnvelope EventIntegrity EventIntegrityLedger EventIntegritySequence
open IntervalPoints SequenceLedger SequenceHistory

/-- Attempts beyond the high waters, from the given cpu on. -/
def tailTotal (i : TraceIntegrity) : ℕ → List UInt64 → ℕ
  | _, [] => 0
  | cpu, sequence::rest => (i.tailDelta cpu sequence).toNat+tailTotal i (cpu+1) rest

section Tail

/-- The tail loop touches only its counter. -/
theorem countTail_frame (i : TraceIntegrity) (cpu : ℕ) (sequences : List UInt64) :
    (i.countTail cpu sequences).1.snapshot.tainted=i.snapshot.tainted ∧
    (i.countTail cpu sequences).1.snapshot.estimatedLost=i.snapshot.estimatedLost := by
  induction sequences generalizing i cpu with
  | nil => exact ⟨rfl,rfl⟩
  | cons sequence rest ih =>
    unfold TraceIntegrity.countTail
    dsimp only
    split_ifs
    · exact ih i (cpu+1)
    · exact ih _ (cpu+1)
    · exact ih i (cpu+1)

theorem tailTotal_congr {i j : TraceIntegrity} (h : j.cpus=i.cpus) (cpu : ℕ)
    (sequences : List UInt64) : tailTotal j cpu sequences=tailTotal i cpu sequences := by
  induction sequences generalizing cpu with
  | nil => rfl
  | cons sequence rest ih =>
    rw [tailTotal,tailTotal,ih,TraceIntegrity.tailDelta,TraceIntegrity.tailDelta,h]

/-- Deltas inside the window are added up exactly while they fit. -/
theorem countTail_spec (i : TraceIntegrity) (cpu : ℕ) (sequences : List UInt64)
    (hwindow : ∀ k sequence, sequences[k]?=some sequence →
      i.tailDelta (cpu+k) sequence < traceSequenceForwardLimit)
    (hfit : i.snapshot.unobservedTail.toNat+tailTotal i cpu sequences < 2^64) :
    (i.countTail cpu sequences).1.snapshot.unobservedTail.toNat=
      i.snapshot.unobservedTail.toNat+tailTotal i cpu sequences := by
  induction sequences generalizing i cpu with
  | nil => rfl
  | cons sequence rest ih =>
    rw [tailTotal] at hfit ⊢
    have hhead := hwindow 0 sequence rfl
    rw [Nat.add_zero] at hhead
    have hrest : ∀ k x, rest[k]?=some x → i.tailDelta (cpu+1+k) x < traceSequenceForwardLimit := by
      intro k x hx
      rw [Nat.add_assoc,Nat.add_comm 1 k]
      exact hwindow (k+1) x hx
    unfold TraceIntegrity.countTail
    dsimp only
    by_cases hzero : i.tailDelta cpu sequence=0
    · rw [if_pos hzero]
      rw [hzero,UInt64.toNat_zero,Nat.zero_add] at hfit ⊢
      exact ih i (cpu+1) hrest hfit
    · rw [if_neg hzero,if_pos hhead]
      have hsum : (i.snapshot.unobservedTail+i.tailDelta cpu sequence).toNat=
          i.snapshot.unobservedTail.toNat+(i.tailDelta cpu sequence).toNat := by
        rw [toNat_add_word,if_pos (by omega)]
      generalize hj : ({i with snapshot := {i.snapshot with
        unobservedTail := i.snapshot.unobservedTail+i.tailDelta cpu sequence}} :
          TraceIntegrity)=j
      have hcpus : j.cpus=i.cpus := by rw [←hj]
      have htail : j.snapshot.unobservedTail.toNat=
          i.snapshot.unobservedTail.toNat+(i.tailDelta cpu sequence).toNat := by
        rw [←hj]
        exact hsum
      have hih := ih j (cpu+1) (by
        intro k x hx
        rw [TraceIntegrity.tailDelta,hcpus]
        exact hrest k x hx) (by rw [tailTotal_congr hcpus]; omega)
      rw [tailTotal_congr hcpus] at hih
      dsimp only
      omega

/-- A nonempty tail is always found. -/
theorem countTail_found (i : TraceIntegrity) (cpu : ℕ) (sequences : List UInt64)
    (h : (i.countTail cpu sequences).2=false) :
    (i.countTail cpu sequences).1.snapshot.unobservedTail=i.snapshot.unobservedTail := by
  induction sequences generalizing i cpu with
  | nil => rfl
  | cons sequence rest ih =>
    unfold TraceIntegrity.countTail at h ⊢
    dsimp only at h ⊢
    split_ifs at h ⊢
    · exact ih i (cpu+1) h
    · exact ih i (cpu+1) h

end Tail

section Taint

variable {i : TraceIntegrity}

theorem earlierUnresolved_isSome_of_first {first : Option TraceSequenceGapGroup}
    {gap : TraceSequenceGap} (h : first.isSome=true) :
    (i.earlierUnresolved first gap).isSome=true := by
  obtain ⟨f,rfl⟩ := Option.isSome_iff_exists.mp h
  unfold TraceIntegrity.earlierUnresolved
  cases i.groupOf gap with
  | none => rfl
  | some g =>
    dsimp only
    split_ifs <;> rfl

theorem earlierUnresolved_isSome_of_gap {first : Option TraceSequenceGapGroup}
    {gap : TraceSequenceGap} {g : TraceSequenceGapGroup} (hg : i.groupOf gap=some g)
    (hne : g.remaining≠0) :
    (i.earlierUnresolved first gap).isSome=true := by
  unfold TraceIntegrity.earlierUnresolved
  rw [hg]
  dsimp only
  rw [if_neg hne]
  cases first with
  | none => rfl
  | some f =>
    dsimp only
    split_ifs <;> rfl

/-- An unresolved jump is found in any visiting order. -/
theorem firstUnresolvedSequenceGap_isSome {order : List UInt32} {cpu : UInt32}
    {gap : TraceSequenceGap} {g : TraceSequenceGapGroup} (hcpu : cpu∈order)
    (hgap : gap∈(cpuState i cpu).gaps) (hg : i.groupOf gap=some g) (hne : g.remaining≠0) :
    (i.firstUnresolvedSequenceGap order).isSome=true := by
  have hfold : ∀ (gaps : List TraceSequenceGap) (first : Option TraceSequenceGapGroup),
      (first.isSome=true ∨ gap∈gaps) →
      (gaps.foldl i.earlierUnresolved first).isSome=true := by
    intro gaps
    induction gaps with
    | nil =>
      intro first h
      exact h.resolve_right List.not_mem_nil
    | cons other rest ih =>
      intro first h
      rw [List.foldl_cons]
      apply ih
      rcases h with hfirst | hmem
      · exact .inl (earlierUnresolved_isSome_of_first hfirst)
      · rcases List.mem_cons.mp hmem with rfl | hrest
        · exact .inl (earlierUnresolved_isSome_of_gap hg hne)
        · exact .inr hrest
  apply hfold
  right
  exact List.mem_flatMap.mpr ⟨cpu,hcpu,hgap⟩

/-- A nonzero loss counter is backed by an unresolved jump. -/
theorem unresolved_of_lost (hs : Sound (ledger i)) (hlost : i.snapshot.estimatedLost≠0) :
    ∃ cpu gap g, cpu∈i.cpus ∧ gap∈(cpuState i cpu).gaps ∧ i.groupOf gap=some g ∧
      g.remaining≠0 := by
  have hpos : 0 < (ledger i).points.card := by
    have hle := hs.lost_le
    have hne : (ledger i).lost.toNat≠0 := fun h => hlost (UInt64.toNat_inj.mp h)
    omega
  obtain ⟨p,hp⟩ := Multiset.card_pos_iff_exists_mem.mp hpos
  obtain ⟨gap,hgap,hmem⟩ := mem_points_iff.mp hp
  obtain ⟨ref,g,hgroup,hg,hne⟩ := held_group hs hgap ((mem_gapPoints _).mp hmem).2.2
  refine ⟨p.1,gap,g,?_,hgap,?_,hne⟩
  · cases hlookup : i.cpus.lookup p.1 with
    | none =>
      rw [cpuState,hlookup] at hgap
      exact absurd hgap List.not_mem_nil
    | some found => exact Finmap.mem_of_lookup_eq_some hlookup
  · rw [TraceIntegrity.groupOf,hgroup,Option.bind_some,hg]

/-- The gap check keeps a taint and leaves no unresolved jump untainted. -/
theorem finalizeGaps_tainted {order : List UInt32}
    (h : i.snapshot.tainted=true ∨ (i.firstUnresolvedSequenceGap order).isSome=true) :
    (i.finalizeGaps order).snapshot.tainted=true := by
  unfold TraceIntegrity.finalizeGaps
  cases hfirst : i.firstUnresolvedSequenceGap order with
  | none =>
    rw [hfirst] at h
    exact h.resolve_right (by simp)
  | some gap =>
    dsimp only
    split_ifs with htaint
    · exact htaint
    · rfl

theorem finalizeGaps_sameStream (order : List UInt32) :
    SameStream i (i.finalizeGaps order) := by
  unfold TraceIntegrity.finalizeGaps
  cases i.firstUnresolvedSequenceGap order with
  | none => exact SameStream.refl i
  | some gap =>
    dsimp only
    split_ifs
    · exact SameStream.refl i
    · exact ⟨rfl,rfl,rfl,rfl,rfl⟩

end Taint

section Finalize

variable (i : TraceIntegrity) {stats : BpfRuntimeStats} (order : List UInt32)

/-- State in which the tail loop starts. -/
def beforeTail (i : TraceIntegrity) (stats : BpfRuntimeStats) (order : List UInt32) :
    TraceIntegrity :=
  ((i.observeLossTime stats.integrityFirstTimeNS).checkProducer stats).finalizeGaps order

theorem beforeTail_sameStream (stats : BpfRuntimeStats) :
    SameStream i (beforeTail i stats order) := by
  have hcheck : SameStream (i.observeLossTime stats.integrityFirstTimeNS)
      ((i.observeLossTime stats.integrityFirstTimeNS).checkProducer stats) := by
    unfold TraceIntegrity.checkProducer
    split_ifs
    · exact ⟨rfl,rfl,rfl,rfl,rfl⟩
    · exact SameStream.refl _
  exact ((observeLossTime_sameStream i _).trans hcheck).trans (finalizeGaps_sameStream order)

/-- The finalizer with readable counters: the checks, then the tail loop. -/
theorem finalize_eq (havailable : stats.available=true) :
    i.finalize stats order=
      if ((beforeTail i stats order).countTail 0 stats.eventSequences).2 then
        (((beforeTail i stats order).countTail 0 stats.eventSequences).1).taint
          .sequenceTailAtFinalization
      else ((beforeTail i stats order).countTail 0 stats.eventSequences).1 := by
  unfold TraceIntegrity.finalize
  dsimp only
  rw [if_neg (by simp [havailable])]
  rfl

/-- The finalizer adds the tail and keeps the loss counter. -/
theorem finalize_counters (havailable : stats.available=true) :
    (i.finalize stats order).snapshot.estimatedLost=i.snapshot.estimatedLost ∧
    (i.finalize stats order).snapshot.unobservedTail=
      ((beforeTail i stats order).countTail 0 stats.eventSequences).1.snapshot.unobservedTail := by
  have hlost := (countTail_frame (beforeTail i stats order) 0 stats.eventSequences).2.trans
    (beforeTail_sameStream i order stats).lost
  rw [finalize_eq i order havailable]
  split_ifs <;> exact ⟨hlost,rfl⟩

end Finalize

/-- No record counts a tail. -/
theorem observeRun_tail (state fdState notify : Bool) {evs : List TraceEventEnvelope}
    (hlegacy : ∀ ev∈evs, ev.legacyIntegrity=false) :
    (observeRun (newTraceIntegrity state fdState notify) evs).snapshot.unobservedTail=0 := by
  induction evs using List.reverseRecOn with
  | nil => rfl
  | append_singleton evs ev ih =>
    have hlast := hlegacy ev (List.mem_append_right _ List.mem_cons_self)
    rw [observeRun_snoc,(observe_sameStream _ ev hlast).tail]
    obtain ⟨d,r,g,l,c,hsnapshot⟩ := (observeSequence_streamOnly
      (observeRun (newTraceIntegrity state fdState notify) evs).countRecord ev).snapshot
    rw [hsnapshot]
    exact ih (fun x hx => hlegacy x (List.mem_append_left _ hx))

/-- A session that reports loss of any kind is tainted. -/
theorem finalize_tainted {i : TraceIntegrity} {stats : BpfRuntimeStats} {order : List UInt32}
    (hs : Sound (ledger i)) (htail : i.snapshot.unobservedTail=0)
    (horder : Enumerates order i.cpus) (havailable : stats.available=true)
    (hloss : (i.finalize stats order).snapshot.estimatedLost≠0 ∨
      (i.finalize stats order).snapshot.unobservedTail≠0 ∨ stats.producerFailure) :
    (i.finalize stats order).snapshot.tainted=true := by
  obtain ⟨hlost,hcount⟩ := finalize_counters i order havailable
  have hkept := (countTail_frame (beforeTail i stats order) 0 stats.eventSequences).1
  rw [hlost,hcount] at hloss
  rw [finalize_eq i order havailable]
  split_ifs with hfound
  · rfl
  rw [hkept]
  have hcpus : ((i.observeLossTime stats.integrityFirstTimeNS).checkProducer stats).cpus=
      i.cpus := by
    unfold TraceIntegrity.checkProducer TraceIntegrity.observeLossTime
    split_ifs <;> rfl
  have hgroups : ((i.observeLossTime stats.integrityFirstTimeNS).checkProducer stats).groups=
      i.groups := by
    unfold TraceIntegrity.checkProducer TraceIntegrity.observeLossTime
    split_ifs <;> rfl
  rcases hloss with hlost | htailed | hfailure
  · apply finalizeGaps_tainted
    obtain ⟨cpu,gap,g,hcpu,hgap,hg,hne⟩ := unresolved_of_lost hs hlost
    right
    apply firstUnresolvedSequenceGap_isSome ((horder.2 cpu).mpr hcpu) (g := g)
    · rw [cpuState,hcpus]
      exact hgap
    · rw [TraceIntegrity.groupOf,hgroups]
      exact hg
    · exact hne
  · have hnone := countTail_found _ _ _ (by simpa using hfound)
    rw [hnone,(beforeTail_sameStream i order stats).tail,htail] at htailed
    exact absurd rfl htailed
  · apply finalizeGaps_tainted
    left
    unfold TraceIntegrity.checkProducer
    split_ifs with hcheck
    · rfl
    · by_contra hclean
      exact hcheck ⟨by simpa using hclean,hfailure⟩

/-- High waters of the cpus from the given one on. -/
def highWaters (run : List (Delivery UInt32)) : ℕ → List UInt64 → ℕ
  | _, [] => 0
  | cpu, _::rest => highWater (UInt32.ofNat cpu) run+highWaters run (cpu+1) rest

theorem highWaters_eq_sum (run : List (Delivery UInt32)) (cpu : ℕ) (sequences : List UInt64) :
    highWaters run cpu sequences=
      ∑ k∈Finset.range sequences.length, highWater (UInt32.ofNat (cpu+k)) run := by
  induction sequences generalizing cpu with
  | nil => rfl
  | cons sequence rest ih =>
    rw [highWaters,ih,List.length_cons,Finset.sum_range_succ',Nat.add_zero,Nat.add_comm]
    congr 1
    refine Finset.sum_congr rfl (fun k _ => ?_)
    rw [Nat.add_assoc,Nat.add_comm 1 k]

/-- Counters at or above the high waters split into high waters and tails. -/
theorem sum_sequences {i : TraceIntegrity} {run : List (Delivery UInt32)} (cpu : ℕ)
    (sequences : List UInt64)
    (hhigh : ∀ cpu, (cpuState i cpu).sequence.toNat=highWater cpu run)
    (hle : ∀ k sequence, sequences[k]?=some sequence →
      highWater (UInt32.ofNat (cpu+k)) run ≤ sequence.toNat) :
    (sequences.map UInt64.toNat).sum=tailTotal i cpu sequences+highWaters run cpu sequences := by
  induction sequences generalizing cpu with
  | nil => rfl
  | cons sequence rest ih =>
    have hrest := ih (cpu+1) (by
      intro k x hx
      rw [Nat.add_assoc,Nat.add_comm 1 k]
      exact hle (k+1) x hx)
    have hhead := hle 0 sequence rfl
    rw [Nat.add_zero,←hhigh] at hhead
    have hdelta : (i.tailDelta cpu sequence).toNat+highWater (UInt32.ofNat cpu) run=
        sequence.toNat := by
      rw [TraceIntegrity.tailDelta,←hhigh]
      change (sequence-(cpuState i (UInt32.ofNat cpu)).sequence).toNat+_=_
      rw [UInt64.toNat_sub_of_le _ _ (UInt64.le_iff_toNat_le.mpr hhead)]
      omega
    rw [List.map_cons,List.sum_cons,hrest,tailTotal,highWaters]
    omega

/-- Cpus listed by the producer. -/
def listedCPUs (stats : BpfRuntimeStats) : Finset UInt32 :=
  (Finset.range stats.eventSequences.length).image UInt32.ofNat

/-- Distinct positions are distinct cpus. -/
theorem sum_listedCPUs {stats : BpfRuntimeStats} (hcpus : stats.eventSequences.length ≤ 2^32)
    (run : List (Delivery UInt32)) :
    ∑ cpu∈listedCPUs stats, highWater cpu run=highWaters run 0 stats.eventSequences := by
  rw [listedCPUs,Finset.sum_image,highWaters_eq_sum]
  · simp only [Nat.zero_add]
  · intro a ha b hb hab
    rw [Finset.mem_coe,Finset.mem_range] at ha hb
    have htoNat := congrArg UInt32.toNat hab
    rw [UInt32.toNat_ofNat',UInt32.toNat_ofNat',Nat.mod_eq_of_lt (by omega),
      Nat.mod_eq_of_lt (by omega)] at htoNat
    exact htoNat

/-- A counter less than half a word above the high water is in the window. -/
theorem tailDelta_lt {i : TraceIntegrity} {run : List (Delivery UInt32)} {cpu : ℕ}
    {sequence : UInt64} (hhigh : ∀ cpu, (cpuState i cpu).sequence.toNat=highWater cpu run)
    (hle : highWater (UInt32.ofNat cpu) run ≤ sequence.toNat)
    (hlt : sequence.toNat < highWater (UInt32.ofNat cpu) run+2^63) :
    i.tailDelta cpu sequence < traceSequenceForwardLimit := by
  have hlimit : traceSequenceForwardLimit.toNat=2^63 := rfl
  rw [←hhigh] at hle hlt
  rw [TraceIntegrity.tailDelta,UInt64.lt_iff_toNat_lt,hlimit]
  change (sequence-(cpuState i (UInt32.ofNat cpu)).sequence).toNat < _
  rw [UInt64.toNat_sub_of_le _ _ (UInt64.le_iff_toNat_le.mpr hle)]
  omega

/-- The report carries the loss counters and the taint flag. -/
theorem report_counters (i : TraceIntegrity) :
    i.report.estimatedLost=i.snapshot.estimatedLost ∧
    i.report.unobservedTail=i.snapshot.unobservedTail ∧
    i.report.tainted=i.snapshot.tainted := by
  unfold TraceIntegrity.report
  split_ifs <;> exact ⟨rfl,rfl,rfl⟩

/-- A run of distinct windowed records and counters that cover it. -/
structure Covered (evs : List TraceEventEnvelope) (stats : BpfRuntimeStats) : Prop where
  /-- Every record is sequenced. -/
  sequenced : ∀ ev∈evs, ev.legacyIntegrity=false
  /-- Every number is near the high water of its cpu. -/
  windowed : Windowed (deliveries evs)
  /-- No record repeats another. -/
  distinct : (deliveries evs).Nodup
  /-- The counters could be read. -/
  available : stats.available=true
  /-- The cpus have different numbers. -/
  cpus : stats.eventSequences.length ≤ 2^32
  /-- Every record is from a cpu with a counter. -/
  cover : ∀ ev∈evs, ev.cpu.toNat < stats.eventSequences.length
  /-- A counter is at or less than half a word above the high water of its cpu. -/
  counter : ∀ k sequence, stats.eventSequences[k]?=some sequence →
    highWater (UInt32.ofNat k) (deliveries evs) ≤ sequence.toNat ∧
    sequence.toNat < highWater (UInt32.ofNat k) (deliveries evs)+2^63
  /-- The attempts fit a word. -/
  fit : (stats.eventSequences.map UInt64.toNat).sum < 2^64

namespace Covered

variable {evs : List TraceEventEnvelope} {stats : BpfRuntimeStats}

theorem listed (h : Covered evs stats) : ∀ d∈deliveries evs, d.1∈listedCPUs stats := by
  intro d hd
  obtain ⟨ev,hev,rfl⟩ := List.mem_map.mp hd
  exact Finset.mem_image.mpr ⟨ev.cpu.toNat,Finset.mem_range.mpr (h.cover ev hev),
    UInt32.ofNat_toNat⟩

variable (state fdState notify : Bool)

/-- The attempts are high waters and tails. -/
theorem sum_eq (h : Covered evs stats) : (stats.eventSequences.map UInt64.toNat).sum=
    tailTotal (observeRun (newTraceIntegrity state fdState notify) evs) 0 stats.eventSequences+
      highWaters (deliveries evs) 0 stats.eventSequences := by
  have hhigh := sequence_eq_highWater state fdState notify h.sequenced h.windowed
  apply sum_sequences 0 stats.eventSequences hhigh
  intro k sequence hk
  rw [Nat.zero_add]
  exact (h.counter k sequence hk).1

/-- Every attempt is observed, missing or behind the high water of its cpu. -/
theorem split (h : Covered evs stats) : (stats.eventSequences.map UInt64.toNat).sum=evs.length+
    (ledger (observeRun (newTraceIntegrity state fdState notify) evs)).points.card+
    tailTotal (observeRun (newTraceIntegrity state fdState notify) evs) 0
      stats.eventSequences := by
  obtain ⟨hrun,hgaps⟩ := observeRun_refines state fdState notify h.sequenced
  have hconserved := Run.conservation hrun h.windowed h.distinct (listedCPUs stats) h.listed
  have hlength : (deliveries evs).length=evs.length := List.length_map _
  have hsum := h.sum_eq state fdState notify
  rw [sum_listedCPUs h.cpus] at hconserved
  omega

/-- The report has what is missing and what is behind the high waters. -/
theorem report (h : Covered evs stats) (order : List UInt32) :
    ((observeRun (newTraceIntegrity state fdState notify) evs).finalize
        stats order).report.estimatedLost.toNat=
      (ledger (observeRun (newTraceIntegrity state fdState notify) evs)).points.card ∧
    ((observeRun (newTraceIntegrity state fdState notify) evs).finalize
        stats order).report.unobservedTail.toNat=
      tailTotal (observeRun (newTraceIntegrity state fdState notify) evs) 0
        stats.eventSequences := by
  obtain ⟨hrun,hgaps⟩ := observeRun_refines state fdState notify h.sequenced
  have htail := observeRun_tail state fdState notify h.sequenced
  have hhigh := sequence_eq_highWater state fdState notify h.sequenced h.windowed
  have hsum := h.sum_eq state fdState notify
  have hfit := h.fit
  have hjumps := jumpTotal_le_sum_highWater h.windowed (listedCPUs stats) h.listed
  rw [sum_listedCPUs h.cpus] at hjumps
  generalize observeRun (newTraceIntegrity state fdState notify) evs=i at *
  have hexact := Run.exact hrun (by omega)
  have hsame := beforeTail_sameStream i order stats
  have hbefore : tailTotal (beforeTail i stats order) 0 stats.eventSequences=
      tailTotal i 0 stats.eventSequences := tailTotal_congr hsame.cpus 0 _
  have hstart : (beforeTail i stats order).snapshot.unobservedTail.toNat=0 := by
    rw [hsame.tail,htail]
    rfl
  have hcounted := countTail_spec (beforeTail i stats order) 0 stats.eventSequences (by
    intro k sequence hk
    obtain ⟨hle,hlt⟩ := h.counter k sequence hk
    rw [Nat.zero_add,TraceIntegrity.tailDelta,hsame.cpus]
    exact tailDelta_lt hhigh hle hlt) (by omega)
  obtain ⟨hlost,hcount⟩ := finalize_counters i order h.available
  obtain ⟨hreportLost,hreportTail,hreportTainted⟩ := report_counters (i.finalize stats order)
  have hvalue : i.snapshot.estimatedLost.toNat=(ledger i).points.card := hexact.lost_eq
  rw [hreportLost,hreportTail]
  constructor
  · rw [hlost,hvalue]
  · rw [hcount,hcounted]
    omega

/-- A session with a loss of any kind is reported as tainted. -/
theorem tainted (h : Covered evs stats) {order : List UInt32}
    (horder : Enumerates order (observeRun (newTraceIntegrity state fdState notify) evs).cpus)
    (hloss : ((observeRun (newTraceIntegrity state fdState notify) evs).finalize
        stats order).report.estimatedLost≠0 ∨
      ((observeRun (newTraceIntegrity state fdState notify) evs).finalize
        stats order).report.unobservedTail≠0 ∨ stats.producerFailure) :
    ((observeRun (newTraceIntegrity state fdState notify) evs).finalize
      stats order).report.tainted=true := by
  obtain ⟨hrun,hgaps⟩ := observeRun_refines state fdState notify h.sequenced
  have htail := observeRun_tail state fdState notify h.sequenced
  obtain ⟨hreportLost,hreportTail,hreportTainted⟩ := report_counters
    ((observeRun (newTraceIntegrity state fdState notify) evs).finalize stats order)
  rw [hreportLost,hreportTail] at hloss
  rw [hreportTainted]
  exact finalize_tainted (Run.sound hrun) htail horder h.available hloss

end Covered

/-- Two cpus with a jump, a late record and attempts beyond the high water. -/
def producedRun : List TraceEventEnvelope :=
  [{eventType := .enter, cpu := 0, seq := 4},{eventType := .exit, cpu := 1, seq := 1},
    {eventType := .enter, cpu := 0, seq := 2}]

/-- Counters of the producer of that run. -/
def producedStats : BpfRuntimeStats := {available := true, eventSequences := [6,1]}

/-- Two half-word jumps and a small one, of which one number arrives late. -/
def wrappedRun : List TraceEventEnvelope :=
  [{eventType := .enter, cpu := 0, seq := 0x7fffffffffffffff},
    {eventType := .enter, cpu := 1, seq := 0x7fffffffffffffff},
    {eventType := .enter, cpu := 2, seq := 5},{eventType := .exit, cpu := 2, seq := 1}]

/-- Counters equal to the high waters of that run. -/
def wrappedStats : BpfRuntimeStats :=
  {available := true, eventSequences := [0x7fffffffffffffff,0x7fffffffffffffff,5]}

end StraceGo.EventIntegrityFinalize

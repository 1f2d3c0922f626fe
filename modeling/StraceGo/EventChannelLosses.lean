import StraceGo.EventChannel
import StraceGo.EventIntegrityFinalize
import StraceGo.EventIntegrityReorder

/-!
# Every attempt is accounted for

Whatever the order of the steps, the numbers of a cpu are handed out once, a place has
one owner, and the reader sees the submitted records in the order of their places.
When the reader has the counters of all cpus, every number that was handed out has
been observed, is estimated as lost or is counted behind the last record, and a
session ends without a taint only if every number was observed and nothing failed.
-/

namespace StraceGo.EventChannelLosses

open FiniteMaps EventEnvelope EventIntegrity EventIntegrityLedger EventIntegritySequence
open IntervalPoints SequenceLedger SequenceHistory EventIntegrityFinalize EventIntegrityReorder
open EventChannel

section Counters

/-- The counters of a cpu do not fall. -/
structure Grows (c c' : Channel) : Prop where
  /-- Numbers are only handed out. -/
  eventSeq : ∀ cpu, (c.stats cpu).eventSeq ≤ (c'.stats cpu).eventSeq
  /-- A published loss stays. -/
  first : ∀ cpu, (c.stats cpu).integrityFirstTimeNS≠0 → (c'.stats cpu).integrityFirstTimeNS≠0

/-- A loss was published on one of the cpus. -/
def LossSeen (cpus : ℕ) (c : Channel) : Prop :=
  ∃ cpu : UInt32, cpu.toNat < cpus ∧ (c.stats cpu).integrityFirstTimeNS≠0

theorem LossSeen.grows {cpus : ℕ} {c c' : Channel} (h : LossSeen cpus c) (hgrows : Grows c c') :
    LossSeen cpus c' := by
  obtain ⟨cpu,hcpu,hfirst⟩ := h
  exact ⟨cpu,hcpu,hgrows.first cpu hfirst⟩

theorem setOnce_ne_zero {old new : UInt64} (h : new≠0) : setOnce old new≠0 := by
  unfold setOnce
  split_ifs with hold
  · exact h
  · exact hold

theorem setOnce_of_ne_zero {old : UInt64} (h : old≠0) (new : UInt64) : setOnce old new=old :=
  if_neg h

section SetStats

variable (c : Channel) (cpu : UInt32) (s : CpuStats)

theorem setStats_self : (c.setStats cpu s).stats cpu=s := Function.update_self ..

theorem setStats_other {other : UInt32} (h : other≠cpu) :
    (c.setStats cpu s).stats other=c.stats other := Function.update_of_ne h ..

/-- A change of the counters of one cpu that lets them grow. -/
theorem setStats_grows (hseq : (c.stats cpu).eventSeq ≤ s.eventSeq)
    (hfirst : (c.stats cpu).integrityFirstTimeNS≠0 → s.integrityFirstTimeNS≠0) :
    Grows c (c.setStats cpu s) := by
  constructor
  · intro other
    by_cases hother : other=cpu
    · subst hother
      rw [setStats_self]
      exact hseq
    · rw [setStats_other c cpu s hother]
  · intro other hother
    by_cases hsame : other=cpu
    · subst hsame
      rw [setStats_self]
      exact hfirst hother
    · rw [setStats_other c cpu s hsame]
      exact hother

end SetStats

end Counters

section Perform

/-- The program behind one of its steps. -/
def producerAfter (c : Channel) (p : Producer) : Op → Producer
  | .nextEventSequence => {p with seq := (c.stats p.cpu).eventSeq+1}
  | .reserve => {p with slot := c.ring.length}
  | .firstStatsTime _ => p
  | .firstLossTime _ => p
  | .lossEpoch => p
  | .load failure => {p with loaded := (c.stats p.cpu).failures failure}
  | .store _ => p
  | .captureEpoch => {p with epoch := c.loss.epoch}
  | .captureTime => {p with time := c.loss.firstTimeNS}
  | .submit => p
  | .discard => p

/-- The ring buffer behind a step of a program. -/
def ringAfter (c : Channel) (i : ℕ) (p : Producer) : Op → List Slot
  | .reserve => c.ring ++ [⟨i,.busy⟩]
  | .submit => c.ring.set p.slot ⟨i,.submitted p.seq p.record⟩
  | .discard => c.ring.set p.slot ⟨i,.discarded⟩
  | _ => c.ring

variable (c : Channel) (i : ℕ) (p : Producer) (op : Op)

theorem perform_producers :
    (c.perform i p op).producers=c.producers.set i (producerAfter c p op) := by
  cases op <;> rfl

theorem perform_ring : (c.perform i p op).ring=ringAfter c i p op := by
  cases op <;> rfl

/-- A program does not touch the reader. -/
theorem perform_reader : (c.perform i p op).position=c.position ∧
    (c.perform i p op).integrity=c.integrity ∧ (c.perform i p op).observed=c.observed ∧
    (c.perform i p op).readStats=c.readStats := by
  cases op <;> exact ⟨rfl,rfl,rfl,rfl⟩

theorem producerAfter_cpu : (producerAfter c p op).cpu=p.cpu := by
  cases op <;> rfl

theorem producerAfter_flags : (producerAfter c p op).flags=p.flags := by
  cases op <;> rfl

theorem producerAfter_seq (hop : op≠.nextEventSequence) : (producerAfter c p op).seq=p.seq := by
  cases op <;> first | rfl | exact absurd rfl hop

theorem perform_grows : Grows c (c.perform i p op) := by
  have hkept : Grows c c := ⟨fun cpu => Nat.le_refl _,fun cpu h => h⟩
  cases op with
  | nextEventSequence =>
    have hgrows := setStats_grows c p.cpu
      {c.stats p.cpu with eventSeq := (c.stats p.cpu).eventSeq+1} (Nat.le_succ _) id
    exact ⟨hgrows.eventSeq,hgrows.first⟩
  | firstStatsTime now =>
    have hgrows := setStats_grows c p.cpu {c.stats p.cpu with
      integrityFirstTimeNS := setOnce (c.stats p.cpu).integrityFirstTimeNS now} (Nat.le_refl _)
      (fun h => by rw [setOnce_of_ne_zero h]; exact h)
    exact ⟨hgrows.eventSeq,hgrows.first⟩
  | store failure =>
    have hgrows := setStats_grows c p.cpu {c.stats p.cpu with
      failures := Function.update (c.stats p.cpu).failures failure (p.loaded+1)}
      (Nat.le_refl _) id
    exact ⟨hgrows.eventSeq,hgrows.first⟩
  | reserve => exact ⟨hkept.eventSeq,hkept.first⟩
  | firstLossTime now => exact ⟨hkept.eventSeq,hkept.first⟩
  | lossEpoch => exact ⟨hkept.eventSeq,hkept.first⟩
  | load failure => exact ⟨hkept.eventSeq,hkept.first⟩
  | captureEpoch => exact ⟨hkept.eventSeq,hkept.first⟩
  | captureTime => exact ⟨hkept.eventSeq,hkept.first⟩
  | submit => exact ⟨hkept.eventSeq,hkept.first⟩
  | discard => exact ⟨hkept.eventSeq,hkept.first⟩

end Perform

section Invariant

variable (cpus : ℕ) (c : Channel)

/-- What holds of a running program. -/
structure Working (i : ℕ) (p : Producer) : Prop where
  /-- It runs on one of the cpus. -/
  cpu : p.cpu.toNat < cpus
  /-- The steps ahead are in their order. -/
  legal : Legal p.flags p.ops
  /-- Its number was handed out on its cpu. -/
  handed : p.seq ≤ (c.stats p.cpu).eventSeq
  /-- Behind the first step it has a number. -/
  numbered : p.flags.sequenced=true → 0 < p.seq
  /-- A place is only reserved for a numbered event. -/
  reserved : p.flags.reserved=true → p.flags.sequenced=true
  /-- A place that is its own is one it reserved. -/
  owns : p.flags.held=true → p.flags.reserved=true
  /-- Its place is busy. -/
  held : p.flags.held=true → c.ring[p.slot]?=some ⟨i,.busy⟩
  /-- A loss that it marked is seen. -/
  timed : p.flags.timed=true → (c.stats p.cpu).integrityFirstTimeNS≠0
  /-- Its header only tells of losses that are seen. -/
  header : p.epoch≠0 ∨ p.time≠0 → LossSeen cpus c

/-- What holds of a record in the ring buffer. -/
structure Carried (p : Producer) (number : ℕ) (ev : TraceEventEnvelope) : Prop where
  /-- Its number is that of its program. -/
  own : number=p.seq
  /-- It is a number. -/
  positive : 0 < number
  /-- The record comes from the cpu of its program. -/
  cpu : ev.cpu=p.cpu
  /-- The record has its number modulo a word. -/
  seq : ev.seq=UInt64.ofNat number
  /-- The record has a sequence. -/
  sequenced : ev.legacyIntegrity=false
  /-- The record only tells of losses that are seen. -/
  header : ev.lossEpoch≠0 ∨ ev.lossTimeNS≠0 → LossSeen cpus c

/-- What holds of a place of the ring buffer. -/
structure Owned (s : Slot) (p : Producer) : Prop where
  /-- It was reserved by its owner. -/
  reserved : p.flags.reserved=true
  /-- A submitted record is that of its owner. -/
  carried : ∀ number ev, s.state=.submitted number ev → Carried cpus c p number ev

/-- What holds of the programs and of the ring buffer. -/
structure Producing : Prop where
  /-- It holds of every program. -/
  working : ∀ i p, c.producers[i]?=some p → Working cpus c i p
  /-- No number of a cpu is handed out twice. -/
  distinct : ∀ (i j : ℕ) (p q : Producer), c.producers[i]?=some p → c.producers[j]?=some q →
    p.cpu=q.cpu → p.seq=q.seq → 0 < p.seq → i=j
  /-- No two places have the same owner. -/
  owners : (c.ring.map Slot.owner).Nodup
  /-- It holds of every place. -/
  owned : ∀ s∈c.ring, ∃ p, c.producers[s.owner]?=some p ∧ Owned cpus c s p
  /-- A published loss is seen. -/
  published : c.loss.epoch≠0 ∨ c.loss.firstTimeNS≠0 → LossSeen cpus c

end Invariant

section Producers

variable {cpus : ℕ} {c : Channel} {i : ℕ} {p : Producer} {op : Op} {ops : List Op}

/-- The program with a step less ahead. -/
def advanced (p : Producer) (op : Op) (ops : List Op) : Producer :=
  {p with ops := ops, flags := op.after p.flags}

theorem Working.enabled (hp : Working cpus c i p) (hops : p.ops=op::ops) :
    op.enabled p.flags=true := by
  have hlegal := hp.legal
  rw [hops] at hlegal
  exact hlegal.1

theorem Working.next (hp : Working cpus c i p) (hops : p.ops=op::ops) :
    Legal (op.after p.flags) ops := by
  have hlegal := hp.legal
  rw [hops] at hlegal
  exact hlegal.2

theorem after_reserved {f : Flags} (h : f.reserved=true) (op : Op) :
    (op.after f).reserved=true := by
  cases op <;> first | exact h | rfl

/-- What a step of a program does to the ring buffer. -/
theorem ringAfter_cases (hp : Working cpus c i p) (hops : p.ops=op::ops) :
    ringAfter c i (advanced p op ops) op=c.ring ∨
    (p.flags.reserved=false ∧ (op.after p.flags).reserved=true ∧
      ringAfter c i (advanced p op ops) op=c.ring ++ [⟨i,.busy⟩]) ∨
    (p.flags.held=true ∧ ∃ state,
      ringAfter c i (advanced p op ops) op=c.ring.set p.slot ⟨i,state⟩ ∧
      ∀ number ev, state=.submitted number ev → number=p.seq ∧ 0 < p.seq ∧ ev=p.record) := by
  have henabled := hp.enabled hops
  cases op with
  | reserve =>
    simp only [Op.enabled,Bool.and_eq_true,Bool.not_eq_true'] at henabled
    exact .inr (.inl ⟨henabled.2,rfl,rfl⟩)
  | submit =>
    simp only [Op.enabled,Bool.and_eq_true] at henabled
    refine .inr (.inr ⟨henabled.1.1.1,_,rfl,fun number ev hstate => ?_⟩)
    obtain ⟨hnumber,hrecord⟩ := SlotState.submitted.inj hstate
    exact ⟨hnumber.symm,hp.numbered henabled.1.1.2,hrecord.symm⟩
  | discard =>
    exact .inr (.inr ⟨henabled,_,rfl,fun number ev hstate => SlotState.noConfusion hstate⟩)
  | nextEventSequence => exact .inl rfl
  | firstStatsTime now => exact .inl rfl
  | firstLossTime now => exact .inl rfl
  | lossEpoch => exact .inl rfl
  | load failure => exact .inl rfl
  | store failure => exact .inl rfl
  | captureEpoch => exact .inl rfl
  | captureTime => exact .inl rfl

/-- A place that another program holds stays as it is. -/
theorem Working.elsewhere {a j : ℕ} (hp : Working cpus c i p) (hops : p.ops=op::ops)
    (hother : c.ring[a]?=some ⟨j,.busy⟩) (hij : j≠i) :
    (ringAfter c i (advanced p op ops) op)[a]?=some ⟨j,.busy⟩ := by
  rcases ringAfter_cases hp hops with hsame | ⟨-,-,hmore⟩ | ⟨hheld,state,hset,-⟩
  · rw [hsame]
    exact hother
  · rw [hmore,List.getElem?_append_left (List.getElem?_eq_some_iff.mp hother).1]
    exact hother
  · have hbusy := hp.held hheld
    have hne : p.slot≠a := by
      intro heq
      rw [heq,hother] at hbusy
      exact hij (congrArg Slot.owner (Option.some.inj hbusy))
    rw [hset,List.getElem?_set_ne hne]
    exact hother

/-- A step of another program. -/
theorem Working.frame {j : ℕ} {q : Producer} (hq : Working cpus c j q) {c' : Channel}
    (hgrows : Grows c c') (hheld : q.flags.held=true → c'.ring[q.slot]?=some ⟨j,.busy⟩) :
    Working cpus c' j q where
  cpu := hq.cpu
  legal := hq.legal
  handed := (hq.handed).trans (hgrows.eventSeq _)
  numbered := hq.numbered
  reserved := hq.reserved
  owns := hq.owns
  held := hheld
  timed := fun h => hgrows.first _ (hq.timed h)
  header := fun h => (hq.header h).grows hgrows

theorem Carried.frame {number : ℕ} {ev : TraceEventEnvelope} (h : Carried cpus c p number ev)
    {c' : Channel} {q : Producer} (hgrows : Grows c c') (hcpu : q.cpu=p.cpu) (hseq : q.seq=p.seq) :
    Carried cpus c' q number ev where
  own := h.own.trans hseq.symm
  positive := h.positive
  cpu := h.cpu.trans hcpu.symm
  seq := h.seq
  sequenced := h.sequenced
  header := fun hloss => (h.header hloss).grows hgrows

/-- A step of the program itself. -/
theorem Working.perform (hp : Working cpus c i p) (hops : p.ops=op::ops)
    (hpublished : c.loss.epoch≠0 ∨ c.loss.firstTimeNS≠0 → LossSeen cpus c) :
    Working cpus (c.perform i (advanced p op ops) op) i
      (producerAfter c (advanced p op ops) op) := by
  have henabled := hp.enabled hops
  have hnext := hp.next hops
  have hgrows := perform_grows c i (advanced p op ops) op
  have hheader := fun h => (hp.header h).grows hgrows
  have hseen : c.loss.epoch≠0 ∨ c.loss.firstTimeNS≠0 →
      LossSeen cpus (c.perform i (advanced p op ops) op) := fun h => (hpublished h).grows hgrows
  have hhanded : p.seq ≤ ((c.perform i (advanced p op ops) op).stats p.cpu).eventSeq :=
    hp.handed.trans (hgrows.eventSeq _)
  have htimed := fun h => hgrows.first _ (hp.timed h)
  cases op with
  | nextEventSequence =>
    have hsequenced : p.flags.sequenced=false := by simpa [Op.enabled] using henabled
    have hfree : p.flags.reserved=true → False := by
      intro h
      rw [hp.reserved h] at hsequenced
      nomatch hsequenced
    refine ⟨hp.cpu,hnext,?_,fun _ => Nat.succ_pos _,fun h => rfl,hp.owns,?_,htimed,hheader⟩
    · change _ ≤ ((c.setStats p.cpu _).stats p.cpu).eventSeq
      rw [setStats_self]
      exact Nat.le_refl _
    · intro h
      exact (hfree (hp.owns h)).elim
  | reserve =>
    have hsequenced := (Bool.and_eq_true_iff.mp henabled).1
    refine ⟨hp.cpu,hnext,hhanded,hp.numbered,fun _ => hsequenced,fun _ => rfl,fun _ => ?_,htimed,
      hheader⟩
    change (c.ring ++ [⟨i,.busy⟩])[c.ring.length]?=_
    rw [List.getElem?_concat_length]
  | firstStatsTime now =>
    refine ⟨hp.cpu,hnext,hhanded,hp.numbered,hp.reserved,hp.owns,hp.held,fun _ => ?_,hheader⟩
    change ((c.setStats p.cpu _).stats p.cpu).integrityFirstTimeNS≠0
    rw [setStats_self]
    exact setOnce_ne_zero (bne_iff_ne.mp henabled)
  | captureEpoch =>
    refine ⟨hp.cpu,hnext,hhanded,hp.numbered,hp.reserved,hp.owns,hp.held,htimed,fun h => ?_⟩
    rcases h with hepoch | htime
    · exact hseen (.inl hepoch)
    · exact hheader (.inr htime)
  | captureTime =>
    refine ⟨hp.cpu,hnext,hhanded,hp.numbered,hp.reserved,hp.owns,hp.held,htimed,fun h => ?_⟩
    rcases h with hepoch | htime
    · exact hheader (.inl hepoch)
    · exact hseen (.inr htime)
  | submit =>
    exact ⟨hp.cpu,hnext,hhanded,hp.numbered,hp.reserved,nofun,nofun,htimed,hheader⟩
  | discard =>
    exact ⟨hp.cpu,hnext,hhanded,hp.numbered,hp.reserved,nofun,nofun,htimed,hheader⟩
  | firstLossTime now =>
    exact ⟨hp.cpu,hnext,hhanded,hp.numbered,hp.reserved,hp.owns,hp.held,htimed,hheader⟩
  | lossEpoch =>
    exact ⟨hp.cpu,hnext,hhanded,hp.numbered,hp.reserved,hp.owns,hp.held,htimed,hheader⟩
  | load failure =>
    exact ⟨hp.cpu,hnext,hhanded,hp.numbered,hp.reserved,hp.owns,hp.held,htimed,hheader⟩
  | store failure =>
    exact ⟨hp.cpu,hnext,hhanded,hp.numbered,hp.reserved,hp.owns,hp.held,htimed,hheader⟩

/-- A published loss is seen behind the step that publishes it. -/
theorem published_perform (hp : Working cpus c i p) (hops : p.ops=op::ops)
    (hpublished : c.loss.epoch≠0 ∨ c.loss.firstTimeNS≠0 → LossSeen cpus c)
    (hloss : (c.perform i (advanced p op ops) op).loss.epoch≠0 ∨
      (c.perform i (advanced p op ops) op).loss.firstTimeNS≠0) :
    LossSeen cpus (c.perform i (advanced p op ops) op) := by
  have henabled := hp.enabled hops
  have hgrows := perform_grows c i (advanced p op ops) op
  have hmarked : p.flags.timed=true → LossSeen cpus (c.perform i (advanced p op ops) op) :=
    fun h => ⟨p.cpu,hp.cpu,hgrows.first _ (hp.timed h)⟩
  cases op with
  | firstLossTime now => exact hmarked henabled
  | lossEpoch => exact hmarked henabled
  | nextEventSequence => exact (hpublished hloss).grows hgrows
  | reserve => exact (hpublished hloss).grows hgrows
  | firstStatsTime now => exact (hpublished hloss).grows hgrows
  | load failure => exact (hpublished hloss).grows hgrows
  | store failure => exact (hpublished hloss).grows hgrows
  | captureEpoch => exact (hpublished hloss).grows hgrows
  | captureTime => exact (hpublished hloss).grows hgrows
  | submit => exact (hpublished hloss).grows hgrows
  | discard => exact (hpublished hloss).grows hgrows

/-- A place that has a new state is the program's own. -/
theorem mem_ringAfter (hp : Working cpus c i p) (hops : p.ops=op::ops) {s : Slot}
    (hs : s∈ringAfter c i (advanced p op ops) op) : s∈c.ring ∨
      s.owner=i ∧ (op.after p.flags).reserved=true ∧ ∀ number ev, s.state=.submitted number ev →
        number=p.seq ∧ 0 < p.seq ∧ ev=p.record := by
  rcases ringAfter_cases hp hops with hsame | ⟨-,hreserved,hmore⟩ | ⟨hheld,state,hset,hstate⟩
  · rw [hsame] at hs
    exact .inl hs
  · rw [hmore] at hs
    rcases List.mem_append.mp hs with hold | hnew
    · exact .inl hold
    · rw [List.mem_singleton.mp hnew]
      exact .inr ⟨rfl,hreserved,fun number ev hbusy => SlotState.noConfusion hbusy⟩
  · rw [hset] at hs
    rcases List.mem_or_eq_of_mem_set hs with hold | hnew
    · exact .inl hold
    · rw [hnew]
      exact .inr ⟨rfl,after_reserved (hp.owns hheld) op,hstate⟩

/-- A program that has a place keeps its number. -/
theorem Working.kept (hp : Working cpus c i p) (hops : p.ops=op::ops)
    (hreserved : p.flags.reserved=true) : op≠.nextEventSequence := by
  have henabled := hp.enabled hops
  rintro rfl
  rw [Op.enabled,hp.reserved hreserved] at henabled
  nomatch henabled

/-- The owners of the places: the program may be the owner of one more. -/
theorem owners_ringAfter (hp : Working cpus c i p) (hops : p.ops=op::ops) :
    (ringAfter c i (advanced p op ops) op).map Slot.owner=c.ring.map Slot.owner ∨
      p.flags.reserved=false ∧
        (ringAfter c i (advanced p op ops) op).map Slot.owner=c.ring.map Slot.owner ++ [i] := by
  rcases ringAfter_cases hp hops with hsame | ⟨hfree,-,hmore⟩ | ⟨hheld,state,hset,-⟩
  · rw [hsame]
    exact .inl rfl
  · rw [hmore,List.map_append]
    exact .inr ⟨hfree,rfl⟩
  · left
    have hbusy := hp.held hheld
    rw [hset,List.map_set]
    refine List.ext_getElem? fun a => ?_
    by_cases ha : p.slot=a
    · subst ha
      have hlength := (List.getElem?_eq_some_iff.mp hbusy).1
      rw [List.getElem?_set_self (by rw [List.length_map]; exact hlength),List.getElem?_map,hbusy]
      rfl
    · rw [List.getElem?_set_ne ha]

/-- The other programs are as they were. -/
theorem producer_perform (hp : c.producers[i]?=some p) {j : ℕ} {q : Producer} :
    (c.perform i (advanced p op ops) op).producers[j]?=some q ↔
      (j=i ∧ q=producerAfter c (advanced p op ops) op) ∨ (j≠i ∧ c.producers[j]?=some q) := by
  rw [perform_producers]
  by_cases hji : j=i
  · subst hji
    have hlength := (List.getElem?_eq_some_iff.mp hp).1
    rw [List.getElem?_set_self hlength,Option.some.injEq]
    constructor
    · intro h
      exact .inl ⟨rfl,h.symm⟩
    · rintro (⟨-,h⟩ | ⟨h,-⟩)
      · exact h.symm
      · exact absurd rfl h
  · rw [List.getElem?_set_ne (Ne.symm hji)]
    constructor
    · intro h
      exact .inr ⟨hji,h⟩
    · rintro (⟨h,-⟩ | ⟨-,h⟩)
      · exact absurd h hji
      · exact h

/-- A number that is handed out is above all of its cpu. -/
theorem Producing.fresh (h : Producing cpus c) (hp : c.producers[i]?=some p) {j : ℕ}
    {q : Producer} (hq : c.producers[j]?=some q) (hji : j≠i) (hcpu : q.cpu=p.cpu)
    (hpos : 0 < q.seq) :
    q.seq≠(producerAfter c (advanced p op ops) op).seq := by
  intro hseq
  by_cases hop : op=.nextEventSequence
  · subst hop
    have hhanded := (h.working j q hq).handed
    rw [hseq,hcpu] at hhanded
    exact absurd hhanded (Nat.not_succ_le_self _)
  · rw [producerAfter_seq _ _ _ hop] at hseq
    exact hji (h.distinct j i q p hq hp hcpu hseq hpos)

/-- A step of a program. -/
theorem Producing.perform (h : Producing cpus c) (hp : c.producers[i]?=some p)
    (hops : p.ops=op::ops) : Producing cpus (c.perform i (advanced p op ops) op) := by
  have hwork := h.working i p hp
  have hgrows := perform_grows c i (advanced p op ops) op
  have hmine := hwork.perform hops h.published
  constructor
  · intro j q hq
    rcases (producer_perform hp).mp hq with ⟨rfl,rfl⟩ | ⟨hji,hold⟩
    · exact hmine
    · have hother := h.working j q hold
      refine hother.frame hgrows fun hheld => ?_
      rw [perform_ring]
      exact hwork.elsewhere hops (hother.held hheld) hji
  · intro j k q r hq hr hcpu hseq hpos
    rcases (producer_perform hp).mp hq with ⟨rfl,rfl⟩ | ⟨hj,hold⟩
    · rcases (producer_perform hp).mp hr with ⟨rfl,rfl⟩ | ⟨hk,hold⟩
      · rfl
      · rw [producerAfter_cpu] at hcpu
        rw [hseq] at hpos
        exact absurd hseq.symm (h.fresh hp hold hk hcpu.symm hpos)
    · rcases (producer_perform hp).mp hr with ⟨rfl,rfl⟩ | ⟨hk,hold'⟩
      · rw [producerAfter_cpu] at hcpu
        exact absurd hseq (h.fresh hp hold hj hcpu hpos)
      · exact h.distinct j k q r hold hold' hcpu hseq hpos
  · rw [perform_ring]
    rcases owners_ringAfter hwork hops with hsame | ⟨hfree,hmore⟩
    · rw [hsame]
      exact h.owners
    · rw [hmore]
      refine List.nodup_append.mpr ⟨h.owners,List.nodup_singleton i,?_⟩
      intro owner howner other hother
      obtain ⟨s,hs,rfl⟩ := List.mem_map.mp howner
      rw [List.mem_singleton.mp hother]
      intro hi
      obtain ⟨q,hq,howned⟩ := h.owned s hs
      rw [hi,hp] at hq
      have hreserved := howned.reserved
      rw [←Option.some.inj hq,hfree] at hreserved
      nomatch hreserved
  · intro s hs
    rw [perform_ring] at hs
    have hown : (c.perform i (advanced p op ops) op).producers[i]?=
        some (producerAfter c (advanced p op ops) op) :=
      (producer_perform hp).mpr (.inl ⟨rfl,rfl⟩)
    have hflags : (producerAfter c (advanced p op ops) op).flags=op.after p.flags :=
      producerAfter_flags ..
    rcases mem_ringAfter hwork hops hs with hold | ⟨howner,hreserved,hnew⟩
    · obtain ⟨q,hq,howned⟩ := h.owned s hold
      by_cases hsi : s.owner=i
      · rw [hsi,hp] at hq
        obtain rfl : p=q := Option.some.inj hq
        have hkept := hwork.kept hops howned.reserved
        rw [hsi]
        refine ⟨_,hown,?_,fun number ev hstate => ?_⟩
        · rw [hflags]
          exact after_reserved howned.reserved op
        · exact (howned.carried number ev hstate).frame hgrows (producerAfter_cpu ..)
            (producerAfter_seq _ _ _ hkept)
      · refine ⟨q,(producer_perform hp).mpr (.inr ⟨hsi,hq⟩),howned.reserved,?_⟩
        intro number ev hstate
        exact (howned.carried number ev hstate).frame hgrows rfl rfl
    · rw [howner]
      refine ⟨_,hown,?_,fun number ev hstate => ?_⟩
      · rw [hflags]
        exact hreserved
      · obtain ⟨hnumber,hpos,hrecord⟩ := hnew number ev hstate
        have hop : op≠.nextEventSequence := by
          rintro rfl
          exact (hwork.kept hops (by simpa [Op.after] using hreserved)) rfl
        rw [hrecord,hnumber]
        exact {
          own := (producerAfter_seq c (advanced p op ops) op hop).symm
          positive := hpos
          cpu := (producerAfter_cpu c (advanced p op ops) op).symm
          seq := rfl
          sequenced := rfl
          header := fun hloss => (hwork.header hloss).grows hgrows }
  · exact published_perform hwork hops h.published

/-- A program that is started. -/
theorem Producing.start (h : Producing cpus c) {cpu : UInt32} (hcpu : cpu.toNat < cpus)
    (content : TraceEventEnvelope) {work : Emission} (htimes : 0∉work.times) :
    Producing cpus (c.start cpu content work.ops) := by
  have hgrows : Grows c (c.start cpu content work.ops) := ⟨fun _ => Nat.le_refl _,fun _ => id⟩
  have hkept : ∀ (j : ℕ) (q : Producer), c.producers[j]?=some q →
      (c.start cpu content work.ops).producers[j]?=some q := by
    intro j q hq
    change (c.producers ++ _)[j]?=some q
    rw [List.getElem?_append_left (List.getElem?_eq_some_iff.mp hq).1]
    exact hq
  have hnew : ∀ (j : ℕ) (q : Producer), (c.start cpu content work.ops).producers[j]?=some q →
      c.producers[j]?=some q ∨ q={cpu := cpu, content := content, ops := work.ops} := by
    intro j q hq
    change (c.producers ++ _)[j]?=some q at hq
    rcases Nat.lt_or_ge j c.producers.length with hlt | hge
    · rw [List.getElem?_append_left hlt] at hq
      exact .inl hq
    · rw [List.getElem?_append_right hge] at hq
      exact .inr (List.mem_singleton.mp (List.mem_of_getElem? hq))
  constructor
  · intro j q hq
    rcases hnew j q hq with hold | rfl
    · exact (h.working j q hold).frame hgrows (h.working j q hold).held
    · exact ⟨hcpu,Emission.legal htimes,Nat.zero_le _,nofun,nofun,nofun,nofun,nofun,
        fun hloss => by simp at hloss⟩
  · intro j k q r hq hr hsame hseq hpos
    rcases hnew j q hq with hold | rfl
    · rcases hnew k r hr with hold' | rfl
      · exact h.distinct j k q r hold hold' hsame hseq hpos
      · rw [hseq] at hpos
        exact absurd hpos (Nat.lt_irrefl 0)
    · exact absurd hpos (Nat.lt_irrefl 0)
  · exact h.owners
  · intro s hs
    obtain ⟨q,hq,howned⟩ := h.owned s hs
    refine ⟨q,hkept _ _ hq,howned.reserved,fun number ev hstate => ?_⟩
    exact (howned.carried number ev hstate).frame hgrows rfl rfl
  · exact h.published

/-- A step that only the reader sees. -/
theorem Producing.frame (h : Producing cpus c) {c' : Channel} (hstats : c'.stats=c.stats)
    (hloss : c'.loss=c.loss) (hring : c'.ring=c.ring) (hproducers : c'.producers=c.producers) :
    Producing cpus c' := by
  obtain ⟨stats,loss,ring,producers,position,integrity,observed,readStats⟩ := c
  obtain ⟨stats',loss',ring',producers',position',integrity',observed',readStats'⟩ := c'
  subst hstats hloss hring hproducers
  exact ⟨fun i p hp => { h.working i p hp with },h.distinct,h.owners,
    fun s hs => by
      obtain ⟨q,hq,howned⟩ := h.owned s hs
      exact ⟨q,hq,howned.reserved,fun number ev hstate =>
        { howned.carried number ev hstate with }⟩,h.published⟩

end Producers

section Reader

/-- The record tells of a loss. -/
def Lossy (ev : TraceEventEnvelope) : Prop := ev.lossEpoch≠0 ∨ ev.lossTimeNS≠0

/-- What holds of the reader. -/
structure Reading (cpus : ℕ) (begun : TraceIntegrity) (c : Channel) : Prop where
  /-- The places that are read are reserved. -/
  position : c.position ≤ c.ring.length
  /-- No program has its record behind the reader. -/
  settled : ∀ s∈c.ring.take c.position, s.state≠.busy
  /-- The submitted records behind the reader are observed. -/
  observed : c.observed=(c.ring.take c.position).filterMap Slot.event
  /-- The observer has observed them in this order. -/
  integrity : c.integrity=observeRun begun (c.observed.map Prod.snd)
  /-- A counter is read for every cpu. -/
  length : c.readStats.length ≤ cpus
  /-- A counter that is read covers the observed numbers of its cpu. -/
  counted : ∀ (k : ℕ) (s : CpuStats), c.readStats[k]?=some s → ∀ o∈c.observed,
    o.2.cpu=UInt32.ofNat k → o.1 ≤ s.eventSeq
  /-- A loss that an observed record tells of is in a counter that is read. -/
  seen : ∀ o∈c.observed, Lossy o.2 → ∃ cpu : UInt32, cpu.toNat < cpus ∧
    (c.stats cpu).integrityFirstTimeNS≠0 ∧
      ∀ s, c.readStats[cpu.toNat]?=some s → s.integrityFirstTimeNS≠0

variable {cpus : ℕ} {begun : TraceIntegrity} {c : Channel}

/-- A step of a program is in front of the reader. -/
theorem take_ringAfter (h : Reading cpus begun c) {i : ℕ} {p : Producer} {op : Op} {ops : List Op}
    (hp : Working cpus c i p) (hops : p.ops=op::ops) :
    (ringAfter c i (advanced p op ops) op).take c.position=c.ring.take c.position := by
  rcases ringAfter_cases hp hops with hsame | ⟨-,-,hmore⟩ | ⟨hheld,state,hset,-⟩
  · rw [hsame]
  · rw [hmore]
    exact List.take_append_of_le_length h.position
  · have hbusy := hp.held hheld
    rw [hset]
    apply List.take_set_of_le
    by_contra hbehind
    have htaken : (c.ring.take c.position)[p.slot]?=some ⟨i,.busy⟩ := by
      rw [List.getElem?_take_of_lt (by omega)]
      exact hbusy
    exact h.settled _ (List.mem_of_getElem? htaken) rfl

theorem length_ringAfter {i : ℕ} {p : Producer} {op : Op} {ops : List Op}
    (hp : Working cpus c i p) (hops : p.ops=op::ops) :
    c.ring.length ≤ (ringAfter c i (advanced p op ops) op).length := by
  rcases ringAfter_cases hp hops with hsame | ⟨-,-,hmore⟩ | ⟨-,state,hset,-⟩
  · rw [hsame]
  · rw [hmore,List.length_append]
    omega
  · rw [hset,List.length_set]

/-- A step of a program leaves the reader as it was. -/
theorem Reading.perform (h : Reading cpus begun c) {i : ℕ} {p : Producer} {op : Op}
    {ops : List Op} (hp : Working cpus c i p) (hops : p.ops=op::ops) :
    Reading cpus begun (c.perform i (advanced p op ops) op) := by
  have hgrows := perform_grows c i (advanced p op ops) op
  have htake := take_ringAfter h hp hops
  have hlength := length_ringAfter hp hops
  obtain ⟨hposition,hintegrity,hobserved,hstats⟩ := perform_reader c i (advanced p op ops) op
  constructor
  · rw [hposition,perform_ring]
    exact h.position.trans hlength
  · rw [hposition,perform_ring,htake]
    exact h.settled
  · rw [hposition,perform_ring,htake,hobserved]
    exact h.observed
  · rw [hintegrity,hobserved]
    exact h.integrity
  · rw [hstats]
    exact h.length
  · rw [hstats,hobserved]
    exact h.counted
  · rw [hstats,hobserved]
    intro o ho hlossy
    obtain ⟨cpu,hcpu,hfirst,hread⟩ := h.seen o ho hlossy
    exact ⟨cpu,hcpu,hgrows.first cpu hfirst,hread⟩

/-- The places behind the reader and the next one. -/
theorem take_next {s : Slot} (hslot : c.ring[c.position]?=some s) :
    c.ring.take (c.position+1)=c.ring.take c.position ++ [s] := by
  rw [List.take_add_one,hslot]
  rfl

theorem Reading.read (h : Reading cpus begun c) (hproducing : Producing cpus c) {s : Slot}
    {number : ℕ} {ev : TraceEventEnvelope} (hstats : c.readStats=[])
    (hslot : c.ring[c.position]?=some s) (hstate : s.state=.submitted number ev) :
    Reading cpus begun (c.read number ev) := by
  have hlast : Slot.event s=some (number,ev) := by rw [Slot.event,hstate]
  constructor
  · exact (List.getElem?_eq_some_iff.mp hslot).1
  · change ∀ s∈c.ring.take (c.position+1),_
    rw [take_next hslot]
    intro t ht
    rcases List.mem_append.mp ht with hold | hnew
    · exact h.settled t hold
    · rw [List.mem_singleton.mp hnew,hstate]
      exact SlotState.noConfusion
  · change c.observed ++ [(number,ev)]=(c.ring.take (c.position+1)).filterMap Slot.event
    rw [take_next hslot,List.filterMap_append,←h.observed,List.filterMap_cons_some hlast]
    rfl
  · change (c.integrity.observe ev).1=observeRun begun ((c.observed ++ [(number,ev)]).map Prod.snd)
    rw [List.map_append]
    change _=observeRun begun (c.observed.map Prod.snd ++ [ev])
    rw [observeRun_snoc,←h.integrity]
  · exact h.length
  · change ∀ (k : ℕ) (s : CpuStats), c.readStats[k]?=some s → _
    rw [hstats]
    intro k s hk
    nomatch hk
  · change ∀ o∈c.observed ++ [(number,ev)],_
    intro o ho hlossy
    rcases List.mem_append.mp ho with hold | hnew
    · exact h.seen o hold hlossy
    · rw [List.mem_singleton.mp hnew] at hlossy
      obtain ⟨p,hp,howned⟩ := hproducing.owned s (List.mem_of_getElem? hslot)
      obtain ⟨cpu,hcpu,hfirst⟩ := (howned.carried number ev hstate).header hlossy
      refine ⟨cpu,hcpu,hfirst,fun t ht => ?_⟩
      change c.readStats[cpu.toNat]?=some t at ht
      rw [hstats] at ht
      nomatch ht

theorem Reading.skip (h : Reading cpus begun c) {s : Slot} (hslot : c.ring[c.position]?=some s)
    (hstate : s.state=.discarded) : Reading cpus begun c.skip := by
  have hlast : Slot.event s=none := by rw [Slot.event,hstate]
  constructor
  · exact (List.getElem?_eq_some_iff.mp hslot).1
  · change ∀ s∈c.ring.take (c.position+1),_
    rw [take_next hslot]
    intro t ht
    rcases List.mem_append.mp ht with hold | hnew
    · exact h.settled t hold
    · rw [List.mem_singleton.mp hnew,hstate]
      exact SlotState.noConfusion
  · change c.observed=(c.ring.take (c.position+1)).filterMap Slot.event
    rw [take_next hslot,List.filterMap_append,←h.observed,List.filterMap_cons_none hlast]
    exact (List.append_nil _).symm
  · exact h.integrity
  · exact h.length
  · exact h.counted
  · exact h.seen

/-- A place with a record is a submitted one. -/
theorem state_of_event {s : Slot} {o : ℕ×TraceEventEnvelope} (hevent : s.event=some o) :
    s.state=.submitted o.1 o.2 := by
  cases hstate : s.state with
  | busy =>
    rw [Slot.event,hstate] at hevent
    nomatch hevent
  | discarded =>
    rw [Slot.event,hstate] at hevent
    nomatch hevent
  | submitted number record =>
    rw [Slot.event,hstate] at hevent
    rw [←Option.some.inj hevent]

/-- An observed record is that of a program. -/
theorem Reading.carried (h : Reading cpus begun c) (hproducing : Producing cpus c)
    {o : ℕ×TraceEventEnvelope} (ho : o∈c.observed) : ∃ (i : ℕ) (p : Producer),
      c.producers[i]?=some p ∧ Carried cpus c p o.1 o.2 := by
  rw [h.observed] at ho
  obtain ⟨s,hs,hevent⟩ := List.mem_filterMap.mp ho
  obtain ⟨p,hp,howned⟩ := hproducing.owned s (List.mem_of_mem_take hs)
  exact ⟨s.owner,p,hp,howned.carried o.1 o.2 (state_of_event hevent)⟩

theorem Reading.readNextStats (h : Reading cpus begun c) (hproducing : Producing cpus c)
    (hnext : c.readStats.length < cpus) :
    Reading cpus begun c.readNextStats := by
  have hread : ∀ (k : ℕ) (s : CpuStats), c.readNextStats.readStats[k]?=some s →
      c.readStats[k]?=some s ∨ (k=c.readStats.length ∧ s=c.stats (UInt32.ofNat k)) := by
    intro k s hk
    change (c.readStats ++ [_])[k]?=some s at hk
    rcases Nat.lt_trichotomy k c.readStats.length with hlt | rfl | hgt
    · rw [List.getElem?_append_left hlt] at hk
      exact .inl hk
    · rw [List.getElem?_concat_length] at hk
      exact .inr ⟨rfl,(Option.some.inj hk).symm⟩
    · rw [List.getElem?_eq_none (by rw [List.length_append,List.length_singleton]; omega)] at hk
      nomatch hk
  constructor
  · exact h.position
  · exact h.settled
  · exact h.observed
  · exact h.integrity
  · change (c.readStats ++ [_]).length ≤ cpus
    rw [List.length_append,List.length_singleton]
    exact hnext
  · intro k s hk o ho hcpu
    rcases hread k s hk with hold | ⟨hlast,hs⟩
    · exact h.counted k s hold o ho hcpu
    · obtain ⟨i,p,hp,hcarried⟩ := h.carried hproducing ho
      have hhanded := (hproducing.working i p hp).handed
      rw [hs,hcarried.own,←hcpu,hcarried.cpu]
      exact hhanded
  · intro o ho hlossy
    obtain ⟨cpu,hcpu,hfirst,hfound⟩ := h.seen o ho hlossy
    refine ⟨cpu,hcpu,hfirst,fun s hs => ?_⟩
    rcases hread _ s hs with hold | ⟨hlast,hs⟩
    · exact hfound s hold
    · rw [hs,UInt32.ofNat_toNat]
      exact hfirst

/-- No number of a cpu is observed twice. -/
theorem Reading.distinct (h : Reading cpus begun c) (hproducing : Producing cpus c) :
    c.observed.Pairwise fun o o' => ¬(o.2.cpu=o'.2.cpu ∧ o.1=o'.1) := by
  rw [h.observed]
  have howners : c.ring.Pairwise fun s t => s.owner≠t.owner :=
    List.pairwise_map.mp hproducing.owners
  have hsub := List.take_sublist c.position c.ring
  have hboth : (c.ring.take c.position).Pairwise fun s t =>
      s.owner≠t.owner ∧ s∈c.ring ∧ t∈c.ring :=
    (howners.sublist hsub).imp_of_mem fun hs ht hne => ⟨hne,hsub.subset hs,hsub.subset ht⟩
  refine hboth.filterMap _ fun s t hst o ho o' ho' => ?_
  obtain ⟨hne,hs,ht⟩ := hst
  rintro ⟨hcpu,hnumber⟩
  obtain ⟨p,hp,howned⟩ := hproducing.owned s hs
  obtain ⟨q,hq,howned'⟩ := hproducing.owned t ht
  have hcarried := howned.carried o.1 o.2 (state_of_event ho)
  have hcarried' := howned'.carried o'.1 o'.2 (state_of_event ho')
  have hpos : 0 < p.seq := hcarried.own ▸ hcarried.positive
  rw [hcarried.cpu,hcarried'.cpu] at hcpu
  rw [hcarried.own,hcarried'.own] at hnumber
  exact hne (hproducing.distinct _ _ p q hp hq hcpu hnumber hpos)

end Reader

theorem producing_initial (cpus : ℕ) (begun : TraceIntegrity) :
    Producing cpus {integrity := begun} where
  working := fun i p hp => absurd hp (by simp)
  distinct := fun i j p q hp => absurd hp (by simp)
  owners := List.nodup_nil
  owned := fun s hs => absurd hs (by simp)
  published := fun hloss => absurd hloss (by simp)

theorem reading_initial (cpus : ℕ) (begun : TraceIntegrity) :
    Reading cpus begun {integrity := begun} where
  position := Nat.le_refl 0
  settled := fun s hs => absurd hs (by simp)
  observed := rfl
  integrity := rfl
  length := Nat.zero_le cpus
  counted := fun k s hs => absurd hs (by simp)
  seen := fun o ho => absurd ho (by simp)

/-- Whatever the order of the steps, this holds of the programs, of the ring buffer and of
the reader. -/
theorem reachable_invariant {cpus : ℕ} {state fdState notify : Bool} {c : Channel}
    (h : Reachable cpus state fdState notify c) :
    Producing cpus c ∧ Reading cpus (newTraceIntegrity state fdState notify) c := by
  induction h with
  | refl => exact ⟨producing_initial cpus _,reading_initial cpus _⟩
  | tail hbefore hstep ih =>
    obtain ⟨hproducing,hreading⟩ := ih
    cases hstep with
    | start content hcpu htimes =>
      refine ⟨hproducing.start hcpu content htimes,?_⟩
      exact { hreading with }
    | run hp hops =>
      exact ⟨hproducing.perform hp hops,hreading.perform (hproducing.working _ _ hp) hops⟩
    | read hstats hslot hstate =>
      exact ⟨hproducing.frame rfl rfl rfl rfl,hreading.read hproducing hstats hslot hstate⟩
    | skip hslot hstate =>
      exact ⟨hproducing.frame rfl rfl rfl rfl,hreading.skip hslot hstate⟩
    | readStats hnext =>
      exact ⟨hproducing.frame rfl rfl rfl rfl,hreading.readNextStats hproducing hnext⟩

section Clean

/-- Without attempts beyond the high waters the tail loop finds nothing. -/
theorem countTail_of_zero {i : TraceIntegrity} {cpu : ℕ} {sequences : List UInt64}
    (h : tailTotal i cpu sequences=0) : i.countTail cpu sequences=(i,false) := by
  induction sequences generalizing cpu with
  | nil => rfl
  | cons sequence rest ih =>
    rw [tailTotal,Nat.add_eq_zero_iff] at h
    obtain ⟨hhead,hrest⟩ := h
    have hdelta : i.tailDelta cpu sequence=0 := UInt64.toNat_inj.mp hhead
    rw [TraceIntegrity.countTail]
    simp only [hdelta,if_true]
    exact ih hrest

/-- A session without gap, tail or failure ends as it was. -/
theorem finalize_clean {i : TraceIntegrity} {stats : BpfRuntimeStats} (order : List UInt32)
    (havailable : stats.available=true) (hfailure : ¬stats.producerFailure)
    (hgaps : ∀ cpu, (cpuState i cpu).gaps=[]) (htail : tailTotal i 0 stats.eventSequences=0) :
    i.finalize stats order=i := by
  have htime : stats.integrityFirstTimeNS=0 := by
    by_contra hne
    exact hfailure (.inl hne)
  have hloss : i.observeLossTime stats.integrityFirstTimeNS=i := by
    rw [TraceIntegrity.observeLossTime,if_neg fun h => h.1 htime]
  have hcheck : i.checkProducer stats=i := by
    rw [TraceIntegrity.checkProducer,if_neg fun h => hfailure h.2]
  have hnone : i.gapsIn order=[] := List.flatMap_eq_nil_iff.mpr fun cpu _ => hgaps cpu
  have hfinal : i.finalizeGaps order=i := by
    rw [TraceIntegrity.finalizeGaps,TraceIntegrity.firstUnresolvedSequenceGap,hnone]
    rfl
  have hbefore : beforeTail i stats order=i := by rw [beforeTail,hloss,hcheck,hfinal]
  rw [finalize_eq i order havailable,hbefore,countTail_of_zero htail]
  rfl

/-- A session that observed every attempt once and no loss ends without a taint. -/
theorem finalize_untainted (state fdState notify : Bool) {evs : List TraceEventEnvelope}
    {stats : BpfRuntimeStats} (order : List UInt32) (hcovered : Covered evs stats)
    (hevs : ∀ ev∈evs, Lossless ev) (hfailure : ¬stats.producerFailure)
    (hsum : (stats.eventSequences.map UInt64.toNat).sum=evs.length) :
    ((observeRun (newTraceIntegrity state fdState notify) evs).finalize
      stats order).snapshot.tainted=false := by
  have hclean := untainted_of_nodup state fdState notify hevs hcovered.distinct
  obtain ⟨-,hnonempty⟩ := observeRun_refines state fdState notify hcovered.sequenced
  have hsplit := hcovered.split state fdState notify
  generalize observeRun (newTraceIntegrity state fdState notify) evs=i at *
  have htail : tailTotal i 0 stats.eventSequences=0 := by omega
  have hpoints : (ledger i).points=0 := Multiset.card_eq_zero.mp (by omega)
  have hgaps : ∀ cpu, (cpuState i cpu).gaps=[] := by
    intro cpu
    rw [List.eq_nil_iff_forall_not_mem]
    intro gap hgap
    obtain ⟨group,hheld⟩ := held_iff.mpr ⟨gap,hgap,UInt64.le_refl _,
      cpuState_nonempty hnonempty gap hgap⟩
    rw [hpoints] at hheld
    exact Multiset.notMem_zero _ hheld
  rw [finalize_clean order hcovered.available hfailure hgaps htail]
  exact hclean

end Clean

section Counters

/-- The earliest time of all is none only if all are. -/
theorem earliest_eq_zero {first other : UInt64} (h : earliest first other=0) :
    first=0 ∧ other=0 := by
  unfold earliest at h
  split_ifs at h with hother
  · exact absurd h hother.1
  · refine ⟨h,?_⟩
    by_contra hne
    exact hother ⟨hne,.inl h⟩

theorem foldl_earliest_eq_zero {values : List CpuStats} {first : UInt64}
    (h : values.foldl (fun first s => earliest first s.integrityFirstTimeNS) first=0) :
    first=0 ∧ ∀ s∈values, s.integrityFirstTimeNS=0 := by
  induction values generalizing first with
  | nil => exact ⟨h,fun s hs => absurd hs List.not_mem_nil⟩
  | cons s values ih =>
    obtain ⟨hfirst,hrest⟩ := ih h
    obtain ⟨hzero,hs⟩ := earliest_eq_zero hfirst
    refine ⟨hzero,fun t ht => ?_⟩
    rcases List.mem_cons.mp ht with rfl | hmem
    · exact hs
    · exact hrest t hmem

/-- Counters below a word are read as they are. -/
theorem sum_eventSequences {values : List CpuStats} (h : ∀ s∈values, s.eventSeq < 2^63) :
    ((sumBPFStatsValues values).eventSequences.map UInt64.toNat)=
      values.map CpuStats.eventSeq := by
  change (values.map fun s => UInt64.ofNat s.eventSeq).map UInt64.toNat=_
  rw [List.map_map]
  refine List.map_congr_left fun s hs => ?_
  have hlt := h s hs
  have hsize : UInt64.size=2^64 := rfl
  exact UInt64.toNat_ofNat_of_lt' (by omega)

end Counters

section Final

variable {cpus : ℕ} {begun : TraceIntegrity} {c : Channel}

/-- An observed number is in a counter that was read. -/
theorem Reading.bounded (h : Reading cpus begun c) (hproducing : Producing cpus c)
    (hread : c.readStats.length=cpus) {o : ℕ×TraceEventEnvelope} (ho : o∈c.observed) :
    o.2.cpu.toNat < cpus ∧ ∃ s∈c.readStats, o.1 ≤ s.eventSeq := by
  obtain ⟨i,p,hp,hcarried⟩ := h.carried hproducing ho
  have hcpu : o.2.cpu.toNat < cpus := by
    rw [hcarried.cpu]
    exact (hproducing.working i p hp).cpu
  have hin : o.2.cpu.toNat < c.readStats.length := by omega
  have hfound := List.getElem?_eq_getElem hin
  exact ⟨hcpu,_,List.mem_of_getElem? hfound,h.counted _ _ hfound o ho UInt32.ofNat_toNat.symm⟩

/-- An observed record has its number, which fits half a word. -/
theorem Reading.number (h : Reading cpus begun c) (hproducing : Producing cpus c)
    (hread : c.readStats.length=cpus) (hhalf : ∀ s∈c.readStats, s.eventSeq < 2^63)
    {o : ℕ×TraceEventEnvelope} (ho : o∈c.observed) :
    o.2.seq.toNat=o.1 ∧ 0 < o.1 ∧ o.1 < 2^63 := by
  obtain ⟨i,p,hp,hcarried⟩ := h.carried hproducing ho
  obtain ⟨-,s,hs,hle⟩ := h.bounded hproducing hread ho
  have hlt := hhalf s hs
  have hsize : UInt64.size=2^64 := rfl
  refine ⟨?_,hcarried.positive,by omega⟩
  rw [hcarried.seq]
  exact UInt64.toNat_ofNat_of_lt' (by omega)

/-- The reader is given no delivery twice. -/
theorem Reading.nodup (h : Reading cpus begun c) (hproducing : Producing cpus c)
    (hread : c.readStats.length=cpus) (hhalf : ∀ s∈c.readStats, s.eventSeq < 2^63) :
    (deliveries (c.observed.map Prod.snd)).Nodup := by
  rw [deliveries,List.map_map]
  refine List.pairwise_map.mpr ((h.distinct hproducing).imp_of_mem fun {o o'} ho ho' hne => ?_)
  intro hsame
  obtain ⟨hcpu,hseq⟩ := Prod.mk.inj hsame
  have hnumber := (h.number hproducing hread hhalf ho).1
  have hnumber' := (h.number hproducing hread hhalf ho').1
  exact hne ⟨hcpu,by rw [←hnumber,←hnumber',hseq]⟩

/-- A counter that is read covers what was observed of its cpu. -/
theorem Reading.highWater_le (h : Reading cpus begun c) (hproducing : Producing cpus c)
    (hread : c.readStats.length=cpus) (hhalf : ∀ s∈c.readStats, s.eventSeq < 2^63) {k : ℕ}
    {s : CpuStats} (hs : c.readStats[k]?=some s) :
    highWater (UInt32.ofNat k) (deliveries (c.observed.map Prod.snd)) ≤ s.eventSeq := by
  by_contra hhigh
  have hpos : highWater (UInt32.ofNat k) (deliveries (c.observed.map Prod.snd))≠0 := by omega
  obtain ⟨n,hmem,hn⟩ := exists_highWater hpos
  obtain ⟨ev,hev,heq⟩ := List.mem_map.mp hmem
  obtain ⟨o,ho,rfl⟩ := List.mem_map.mp hev
  obtain ⟨hcpu,rfl⟩ := Prod.mk.inj heq
  have hcounted := h.counted k s hs o ho hcpu
  have hnumber := (h.number hproducing hread hhalf ho).1
  omega

/-- Without a counted failure no observed record tells of a loss. -/
theorem Reading.lossless (h : Reading cpus begun c) (hproducing : Producing cpus c)
    (hread : c.readStats.length=cpus) (hhalf : ∀ s∈c.readStats, s.eventSeq < 2^63)
    (hfailure : ¬(sumBPFStatsValues c.readStats).producerFailure) :
    ∀ ev∈c.observed.map Prod.snd, Lossless ev := by
  intro ev hev
  obtain ⟨o,ho,rfl⟩ := List.mem_map.mp hev
  obtain ⟨i,p,hp,hcarried⟩ := h.carried hproducing ho
  obtain ⟨hnumber,hpos,hlt⟩ := h.number hproducing hread hhalf ho
  have hnone : (sumBPFStatsValues c.readStats).integrityFirstTimeNS=0 := by
    by_contra hne
    exact hfailure (.inl hne)
  have hclean : ¬Lossy o.2 := by
    intro hlossy
    obtain ⟨cpu,hcpu,-,hfound⟩ := h.seen o ho hlossy
    have hin : cpu.toNat < c.readStats.length := by omega
    have hstats := List.getElem?_eq_getElem hin
    exact hfound _ hstats ((foldl_earliest_eq_zero hnone).2 _ (List.mem_of_getElem? hstats))
  have hone : (1 : UInt64).toNat=1 := rfl
  have hlimit : (0x8000000000000000 : UInt64).toNat=2^63 := rfl
  exact {
    sequenced := hcarried.sequenced
    positive := UInt64.le_iff_toNat_le.mpr (by omega)
    half := UInt64.lt_iff_toNat_lt.mpr (by omega)
    lossEpoch := by
      by_contra hne
      exact hclean (.inl hne)
    lossTime := by
      by_contra hne
      exact hclean (.inr hne) }

/-- The counters that were read cover the observed records. -/
theorem Reading.covered (h : Reading cpus begun c) (hproducing : Producing cpus c)
    (hcpus : cpus ≤ 2^32) (hread : c.readStats.length=cpus)
    (hhalf : ∀ s∈c.readStats, s.eventSeq < 2^63)
    (hfit : (c.readStats.map CpuStats.eventSeq).sum < 2^64) :
    Covered (c.observed.map Prod.snd) (sumBPFStatsValues c.readStats) := by
  have hlength : (sumBPFStatsValues c.readStats).eventSequences.length=cpus :=
    (List.length_map _).trans hread
  refine ⟨?_,?_,h.nodup hproducing hread hhalf,rfl,by omega,?_,?_,?_⟩
  · intro ev hev
    obtain ⟨o,ho,rfl⟩ := List.mem_map.mp hev
    obtain ⟨i,p,hp,hcarried⟩ := h.carried hproducing ho
    exact hcarried.sequenced
  · apply windowed_deliveries
    intro ev hev
    obtain ⟨o,ho,rfl⟩ := List.mem_map.mp hev
    obtain ⟨hnumber,hpos,hlt⟩ := h.number hproducing hread hhalf ho
    have hone : (1 : UInt64).toNat=1 := rfl
    have hlimit : traceSequenceForwardLimit.toNat=2^63 := rfl
    exact ⟨UInt64.le_iff_toNat_le.mpr (by omega),UInt64.lt_iff_toNat_lt.mpr (by omega)⟩
  · intro ev hev
    obtain ⟨o,ho,rfl⟩ := List.mem_map.mp hev
    rw [hlength]
    exact (h.bounded hproducing hread ho).1
  · intro k sequence hk
    change (c.readStats.map fun s => UInt64.ofNat s.eventSeq)[k]?=some sequence at hk
    rw [List.getElem?_map,Option.map_eq_some_iff] at hk
    obtain ⟨s,hs,rfl⟩ := hk
    have hle := h.highWater_le hproducing hread hhalf hs
    have hlt := hhalf s (List.mem_of_getElem? hs)
    have hsize : UInt64.size=2^64 := rfl
    have hvalue : (UInt64.ofNat s.eventSeq).toNat=s.eventSeq :=
      UInt64.toNat_ofNat_of_lt' (by omega)
    omega
  · rw [sum_eventSequences hhalf]
    exact hfit

end Final

/-- When the counters of all cpus are read, every number that was handed out to a program
is observed, estimated as lost or counted behind the last record of its cpu, and the
session is free of a taint exactly if every number was observed and no failure counted. -/
theorem every_attempt_is_accounted_for {cpus : ℕ} {state fdState notify : Bool} {c : Channel}
    (order : List UInt32) (hreach : Reachable cpus state fdState notify c) (hcpus : cpus ≤ 2^32)
    (hread : c.readStats.length=cpus) (hhalf : ∀ s∈c.readStats, s.eventSeq < 2^63)
    (hfit : (c.readStats.map CpuStats.eventSeq).sum < 2^64)
    (horder : Enumerates order c.integrity.cpus) :
    (c.readStats.map CpuStats.eventSeq).sum=c.observed.length+
      (finalReport c order).estimatedLost.toNat+(finalReport c order).unobservedTail.toNat ∧
    ((finalReport c order).tainted=false ↔
      (c.readStats.map CpuStats.eventSeq).sum=c.observed.length ∧
        ¬(sumBPFStatsValues c.readStats).producerFailure) := by
  obtain ⟨hproducing,hreading⟩ := reachable_invariant hreach
  have hcovered := hreading.covered hproducing hcpus hread hhalf hfit
  have hsequences := sum_eventSequences hhalf
  have hobserved : (c.observed.map Prod.snd).length=c.observed.length := List.length_map _
  have hsplit := hcovered.split state fdState notify
  obtain ⟨hlost,htail⟩ := hcovered.report state fdState notify order
  rw [hreading.integrity] at horder
  have htaint := hcovered.tainted state fdState notify horder
  rw [hsequences,hobserved] at hsplit
  rw [finalReport,hreading.integrity]
  refine ⟨by omega,fun hclean => ?_,fun hcomplete => ?_⟩
  · rw [hclean] at htaint
    have hnone := not_or.mp fun hloss => Bool.false_ne_true (htaint hloss)
    obtain ⟨htailed,hfailure⟩ := not_or.mp hnone.2
    have hzero := not_not.mp hnone.1
    have hempty := not_not.mp htailed
    rw [hzero,UInt64.toNat_zero] at hlost
    rw [hempty,UInt64.toNat_zero] at htail
    exact ⟨by omega,hfailure⟩
  · obtain ⟨hall,hfailure⟩ := hcomplete
    have hevs := hreading.lossless hproducing hread hhalf hfailure
    rw [(report_counters _).2.2]
    exact finalize_untainted state fdState notify order hcovered hevs hfailure
      (by rw [hsequences,hobserved]; exact hall)

section Schedules

/-- The next step of a program. -/
def stepProducer (c : Channel) (i : ℕ) : Channel :=
  match c.producers[i]? with
  | none => c
  | some p =>
    match p.ops with
    | [] => c
    | op::ops => c.perform i (advanced p op ops) op

/-- The next step of the reader. -/
def stepReader (c : Channel) : Channel :=
  match c.ring[c.position]? with
  | none => c
  | some s =>
    match s.state with
    | .busy => c
    | .discarded => c.skip
    | .submitted number ev => c.read number ev

variable {cpus : ℕ} {state fdState notify : Bool} {c : Channel}

theorem reachable_stepProducer (h : Reachable cpus state fdState notify c) (i : ℕ) :
    Reachable cpus state fdState notify (stepProducer c i) := by
  unfold stepProducer
  cases hp : c.producers[i]? with
  | none => exact h
  | some p =>
    dsimp only
    cases hops : p.ops with
    | nil => exact h
    | cons op ops => exact h.tail (.run hp hops)

theorem reachable_schedule (h : Reachable cpus state fdState notify c) (schedule : List ℕ) :
    Reachable cpus state fdState notify (schedule.foldl stepProducer c) := by
  induction schedule generalizing c with
  | nil => exact h
  | cons i schedule ih => exact ih (reachable_stepProducer h i)

theorem reachable_stepReader (h : Reachable cpus state fdState notify c)
    (hstats : c.readStats=[]) : Reachable cpus state fdState notify (stepReader c) := by
  unfold stepReader
  cases hslot : c.ring[c.position]? with
  | none => exact h
  | some s =>
    dsimp only
    cases hstate : s.state with
    | busy => exact h
    | discarded => exact h.tail (.skip hslot hstate)
    | submitted number ev => exact h.tail (.read hstats hslot hstate)

end Schedules

/-- A record of one cpu and, between its reservation and its header, a record of another
that finds no place. -/
def lossyPrograms : Channel :=
  [0,0,1,1,1,1,1,1,0,0,0].foldl stepProducer
    ((({integrity := newTraceIntegrity true false true} : Channel).start 0 {eventType := .enter}
      (Emission.submitted []).ops).start 1 {eventType := .exit} (Emission.refused 7).ops)

/-- The reader of these records. -/
def lossyChannel : Channel := (stepReader lossyPrograms).readNextStats.readNextStats

theorem lossyChannel_accounted : (lossyChannel.readStats.map CpuStats.eventSeq).sum=
    lossyChannel.observed.length+(finalReport lossyChannel [0]).estimatedLost.toNat+
      (finalReport lossyChannel [0]).unobservedTail.toNat ∧
    (finalReport lossyChannel [0]).tainted=true := by
  have hprograms : Reachable 2 true false true lossyPrograms := by
    refine reachable_schedule ?_ _
    have hfirst := Relation.ReflTransGen.single (Step.start
      (c := {integrity := newTraceIntegrity true false true}) {eventType := .enter}
      (show (0 : UInt32).toNat < 2 by decide) (show 0∉(Emission.submitted []).times by decide))
    exact hfirst.tail (.start _ (by decide) (by decide))
  have hread : (stepReader lossyPrograms).readStats=[] := by decide +kernel
  have hreach : Reachable 2 true false true lossyChannel := by
    have hreader := reachable_stepReader hprograms rfl
    have hfirst := hreader.tail (.readStats (by rw [hread]; decide))
    exact hfirst.tail (.readStats (by
      change ((stepReader lossyPrograms).readStats ++ [_]).length < 2
      rw [hread]
      decide))
  have hcounters : lossyChannel.readStats.map CpuStats.eventSeq=[1,1] := by decide +kernel
  have hobserved : lossyChannel.observed.length=1 := by decide +kernel
  have hkeys : lossyChannel.integrity.cpus.keys={0} := by decide +kernel
  have horder : Enumerates [0] lossyChannel.integrity.cpus := by
    refine ⟨by decide,fun cpu => ?_⟩
    rw [←Finmap.mem_keys,hkeys]
    simp
  have hlength : lossyChannel.readStats.length=2 := by
    rw [←List.length_map CpuStats.eventSeq,hcounters]
    rfl
  have hhalf : ∀ s∈lossyChannel.readStats, s.eventSeq < 2^63 := by
    intro s hs
    have hmem := List.mem_map_of_mem (f := CpuStats.eventSeq) hs
    rw [hcounters,List.mem_cons,List.mem_singleton,or_self] at hmem
    omega
  obtain ⟨hsum,htaint⟩ := every_attempt_is_accounted_for [0] hreach (by omega) hlength hhalf
    (by rw [hcounters]; decide) horder
  refine ⟨hsum,?_⟩
  rw [←Bool.not_eq_false,htaint,hcounters,hobserved]
  exact fun hcomplete => absurd hcomplete.1 (by decide)

end StraceGo.EventChannelLosses

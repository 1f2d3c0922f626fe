import StraceGo.BpfRuntime
import StraceGo.EventChannelLosses

/-!
# Programs that are not disturbed

A program whose steps follow one another without a step of another changes the channel
as the runtime's submission of its record changes counters and records. What the
runtime submits in one go is thus a run of the channel.
-/

namespace StraceGo.EventChannelRuntime

open EventEnvelope EventChannel EventChannelLosses

/-- The counter of a failure. -/
def countOf (s : BpfRuntime.BpfStats) : Failure → UInt64
  | .ringbufReserve => s.ringbufReserveFail
  | .ringbufCopy => s.ringbufCopyFail
  | .pendingUpdate => s.pendingUpdateFail
  | .pendingMismatch => s.pendingMismatch
  | .lifecycleMapUpdate => s.lifecycleMapUpdateFail
  | .lifecycleFork => s.lifecycleForkChildFilterFailed

/-- The counters and records of the runtime are those of the channel. -/
structure Tells (c : Channel) (t : BpfRuntime.Telemetry) : Prop where
  /-- Numbers are counted modulo a word. -/
  eventSeq : ∀ cpu, (t.stats cpu).eventSeq=UInt64.ofNat (c.stats cpu).eventSeq
  /-- First losses of the cpus. -/
  first : ∀ cpu, (t.stats cpu).integrityFirstTimeNS=(c.stats cpu).integrityFirstTimeNS
  /-- Failures of the cpus. -/
  failures : ∀ cpu failure, countOf (t.stats cpu) failure=(c.stats cpu).failures failure
  /-- Losses of all cpus. -/
  lossEpoch : t.lossEpoch=c.loss.epoch
  /-- First loss of all cpus. -/
  lossTimeNS : t.lossTimeNS=c.loss.firstTimeNS
  /-- Submitted records in the order of their places. -/
  events : t.events=(c.ring.filterMap Slot.event).map Prod.snd

section Programs

variable (inv : BpfRuntime.Invocation) (record : TraceEventEnvelope)

/-- What the program does that submits a record. -/
def emissionOf : Emission :=
  match inv.submission record with
  | .submitted => .submitted []
  | .reserveFailed => .refused (inv.ktime .loss)
  | .copyFailed => .discarded [] true (inv.ktime .loss)

/-- The program runs without a step of another. -/
def runProgram (c : Channel) : Channel :=
  (List.replicate (emissionOf inv record).ops.length c.producers.length).foldl stepProducer
    (c.start inv.cpu {record with comm := inv.comm} (emissionOf inv record).ops)

/-- The steps of a program one after the other. -/
def performAll (c : Channel) (i : ℕ) (p : Producer) : List Op → Channel
  | [] => c
  | op::ops =>
    performAll (c.perform i (advanced p op ops) op) i (producerAfter c (advanced p op ops) op) ops

theorem foldl_stepProducer {i : ℕ} (ops : List Op) {c : Channel} {p : Producer}
    (hp : c.producers[i]?=some p) (hops : p.ops=ops) :
    (List.replicate ops.length i).foldl stepProducer c=performAll c i p ops := by
  induction ops generalizing c p with
  | nil => rfl
  | cons op ops ih =>
    have hstep : stepProducer c i=c.perform i (advanced p op ops) op := by
      unfold stepProducer
      rw [hp]
      dsimp only
      rw [hops]
    have hnext : (c.perform i (advanced p op ops) op).producers[i]?=
        some (producerAfter c (advanced p op ops) op) :=
      (producer_perform hp).mpr (.inl ⟨rfl,rfl⟩)
    have hrest : (producerAfter c (advanced p op ops) op).ops=ops := by
      cases op <;> rfl
    rw [List.length_cons,List.replicate_succ,List.foldl_cons,hstep,ih hnext hrest]
    rfl

/-- The program when it is started. -/
def started : Producer where
  cpu := inv.cpu
  content := {record with comm := inv.comm}
  ops := (emissionOf inv record).ops

/-- A program runs its steps from the start. -/
theorem runProgram_eq (c : Channel) : runProgram inv record c=
    performAll (c.start inv.cpu {record with comm := inv.comm} (emissionOf inv record).ops)
      c.producers.length (started inv record) (emissionOf inv record).ops := by
  apply foldl_stepProducer
  · change (c.producers ++ [_])[c.producers.length]?=_
    rw [List.getElem?_concat_length]
    rfl
  · rfl

end Programs

section Submissions

variable {inv : BpfRuntime.Invocation} {record : TraceEventEnvelope} {c : Channel}
  {t : BpfRuntime.Telemetry}

/-- A change of the counters of one cpu. -/
theorem tells_update (h : Tells c t) {c' : Channel} {t' : BpfRuntime.Telemetry} (cpu : UInt32)
    (s : CpuStats) (b : BpfRuntime.BpfStats) (hc : c'.stats=Function.update c.stats cpu s)
    (ht : t'.stats=Function.update t.stats cpu b) (hseq : b.eventSeq=UInt64.ofNat s.eventSeq)
    (hfirst : b.integrityFirstTimeNS=s.integrityFirstTimeNS)
    (hfailures : ∀ failure, countOf b failure=s.failures failure)
    (hepoch : t'.lossEpoch=c'.loss.epoch) (htime : t'.lossTimeNS=c'.loss.firstTimeNS)
    (hevents : t'.events=(c'.ring.filterMap Slot.event).map Prod.snd) : Tells c' t' := by
  refine ⟨fun other => ?_,fun other => ?_,fun other failure => ?_,hepoch,htime,hevents⟩
  all_goals
    rw [hc,ht]
    by_cases hother : other=cpu
    · subst hother
      rw [Function.update_self,Function.update_self]
      first | exact hseq | exact hfirst | exact hfailures failure
    · rw [Function.update_of_ne hother,Function.update_of_ne hother]
      first | exact h.eventSeq other | exact h.first other | exact h.failures other failure

theorem ofNat_succ_word (n : ℕ) : UInt64.ofNat (n+1)=UInt64.ofNat n+1 := by
  rw [UInt64.ofNat_add]
  rfl

/-- The last place. -/
theorem set_last (ring : List Slot) (s t : Slot) :
    (ring ++ [s]).set ring.length t=ring ++ [t] := by
  rw [List.set_append_right _ _ (Nat.le_refl _),Nat.sub_self]
  rfl

/-- A submitted record. -/
theorem tells_submitted (h : Tells c t) (hlegacy : record.legacyIntegrity=false)
    (hsubmission : inv.submission record=.submitted) :
    Tells (runProgram inv record c) (BpfRuntime.submit inv record t) := by
  have hwork : emissionOf inv record=.submitted [] := by
    rw [emissionOf,hsubmission]
  have hsequence : (t.stats inv.cpu).eventSeq+1=
      UInt64.ofNat ((c.stats inv.cpu).eventSeq+1) := by
    rw [ofNat_succ_word,h.eventSeq]
  rw [runProgram_eq,hwork,BpfRuntime.submit,hsubmission]
  refine tells_update h inv.cpu
    {c.stats inv.cpu with eventSeq := (c.stats inv.cpu).eventSeq+1}
    {t.stats inv.cpu with eventSeq := (t.stats inv.cpu).eventSeq+1} rfl rfl hsequence
    (h.first _) (h.failures _) h.lossEpoch h.lossTimeNS ?_
  change t.events ++ [_]=(((c.ring ++ [_]).set c.ring.length _).filterMap Slot.event).map Prod.snd
  rw [set_last,List.filterMap_append,List.map_append,h.events]
  congr 1
  change [{ record with
    seq := (t.stats inv.cpu).eventSeq+1
    cpu := inv.cpu
    comm := inv.comm
    lossEpoch := t.lossEpoch
    lossTimeNS := t.lossTimeNS }]=[{ record with
    legacyIntegrity := false
    seq := UInt64.ofNat ((c.stats inv.cpu).eventSeq+1)
    cpu := inv.cpu
    comm := inv.comm
    lossEpoch := c.loss.epoch
    lossTimeNS := c.loss.firstTimeNS }]
  rw [hsequence,h.lossEpoch,h.lossTimeNS,hlegacy]

/-- Counters of a cpu behind a record that failed. -/
def failedStats (failure : Failure) (now : UInt64) (s : CpuStats) : CpuStats where
  eventSeq := s.eventSeq+1
  integrityFirstTimeNS := setOnce s.integrityFirstTimeNS now
  failures := Function.update s.failures failure (s.failures failure+1)

/-- A failed record changes the counters of its cpu and the losses. -/
theorem tells_failed (h : Tells c t) {c' : Channel} {t' : BpfRuntime.Telemetry} (cpu : UInt32)
    (failure : Failure) (now : UInt64) (b : BpfRuntime.BpfStats)
    (hc : c'.stats=Function.update c.stats cpu (failedStats failure now (c.stats cpu)))
    (ht : t'.stats=Function.update t.stats cpu b) (hseq : b.eventSeq=(t.stats cpu).eventSeq+1)
    (hfirst : b.integrityFirstTimeNS=setOnce (t.stats cpu).integrityFirstTimeNS now)
    (hcount : ∀ other, countOf b other=if other=failure then countOf (t.stats cpu) failure+1
      else countOf (t.stats cpu) other)
    (hloss : c'.loss=⟨c.loss.epoch+1,setOnce c.loss.firstTimeNS now⟩)
    (hepoch : t'.lossEpoch=t.lossEpoch+1) (htime : t'.lossTimeNS=setOnce t.lossTimeNS now)
    (hevents : t'.events=t.events)
    (hring : c'.ring.filterMap Slot.event=c.ring.filterMap Slot.event) : Tells c' t' := by
  refine tells_update h cpu _ b hc ht ?_ ?_ ?_ ?_ ?_ ?_
  · rw [hseq,failedStats,ofNat_succ_word,h.eventSeq]
  · rw [hfirst,failedStats,h.first]
  · intro other
    rw [hcount,h.failures,h.failures]
    change _=Function.update (c.stats cpu).failures failure _ other
    by_cases hother : other=failure
    · subst hother
      rw [if_pos rfl,Function.update_self]
    · rw [if_neg hother,Function.update_of_ne hother]
  · rw [hepoch,hloss,h.lossEpoch]
  · rw [htime,hloss,h.lossTimeNS]
  · rw [hevents,hring,h.events]

/-- A record that finds no place. -/
theorem tells_refused (h : Tells c t) (hsubmission : inv.submission record=.reserveFailed) :
    Tells (runProgram inv record c) (BpfRuntime.submit inv record t) := by
  have hwork : emissionOf inv record=.refused (inv.ktime .loss) := by
    rw [emissionOf,hsubmission]
  rw [runProgram_eq,hwork,BpfRuntime.submit,hsubmission]
  refine tells_failed h inv.cpu .ringbufReserve (inv.ktime .loss)
    { t.stats inv.cpu with
      eventSeq := (t.stats inv.cpu).eventSeq+1
      integrityFirstTimeNS := setOnce (t.stats inv.cpu).integrityFirstTimeNS (inv.ktime .loss)
      ringbufReserveFail := (t.stats inv.cpu).ringbufReserveFail+1 }
    ?_ ?_ rfl rfl ?_ rfl rfl rfl rfl rfl
  · simp [performAll,Emission.ops,recordFailure,recordEventIntegrityLoss,Channel.perform,
      Channel.setStats,Channel.setProducer,Channel.setLoss,advanced,producerAfter,started,
      Channel.start,failedStats]
  · simp [BpfRuntime.recordRingbufReserveFail,BpfRuntime.recordEventIntegrityLoss,
      BpfRuntime.bump,setOnce]
  · intro other
    cases other <;> rfl

/-- A record that cannot be written. -/
theorem tells_discarded (h : Tells c t) (hsubmission : inv.submission record=.copyFailed) :
    Tells (runProgram inv record c) (BpfRuntime.submit inv record t) := by
  have hwork : emissionOf inv record=.discarded [] true (inv.ktime .loss) := by
    rw [emissionOf,hsubmission]
  rw [runProgram_eq,hwork,BpfRuntime.submit,hsubmission]
  refine tells_failed h inv.cpu .ringbufCopy (inv.ktime .loss)
    { t.stats inv.cpu with
      eventSeq := (t.stats inv.cpu).eventSeq+1
      integrityFirstTimeNS := setOnce (t.stats inv.cpu).integrityFirstTimeNS (inv.ktime .loss)
      ringbufCopyFail := (t.stats inv.cpu).ringbufCopyFail+1 }
    ?_ ?_ rfl rfl ?_ rfl rfl rfl rfl ?_
  · simp [performAll,Emission.ops,recordFailure,recordEventIntegrityLoss,failedCopies,
      captureEventIntegrity,Channel.perform,Channel.setStats,Channel.setProducer,Channel.setLoss,
      Channel.addSlot,Channel.setSlot,advanced,producerAfter,started,Channel.start,failedStats]
  · simp [BpfRuntime.recordRingbufCopyFail,BpfRuntime.recordEventIntegrityLoss,
      BpfRuntime.bump,setOnce]
  · intro other
    cases other <;> rfl
  · change ((c.ring ++ [_]).set c.ring.length _).filterMap Slot.event=_
    rw [set_last,List.filterMap_append]
    exact List.append_nil _

/-- An undisturbed program does what the runtime's submission does. -/
theorem tells_submit (h : Tells c t) (hlegacy : record.legacyIntegrity=false) :
    Tells (runProgram inv record c) (BpfRuntime.submit inv record t) := by
  cases hsubmission : inv.submission record with
  | submitted => exact tells_submitted h hlegacy hsubmission
  | reserveFailed => exact tells_refused h hsubmission
  | copyFailed => exact tells_discarded h hsubmission

/-- Undisturbed programs one after the other do what the runtime's submissions do. -/
theorem tells_submitAll (h : Tells c t) {records : List TraceEventEnvelope}
    (hlegacy : ∀ record∈records, record.legacyIntegrity=false) :
    Tells (records.foldl (fun c record => runProgram inv record c) c)
      (BpfRuntime.submitAll inv records t) := by
  induction records generalizing c t with
  | nil => exact h
  | cons record records ih =>
    exact ih (tells_submit h (hlegacy record List.mem_cons_self))
      fun other hother => hlegacy other (List.mem_cons_of_mem _ hother)

/-- The runtime's submissions are a run of the channel, if the clock runs. -/
theorem reachable_submitAll {cpus : ℕ} {state fdState notify : Bool}
    (hreach : Reachable cpus state fdState notify c) (hcpu : inv.cpu.toNat < cpus)
    (hclock : inv.ktime .loss≠0) (records : List TraceEventEnvelope) :
    Reachable cpus state fdState notify
      (records.foldl (fun c record => runProgram inv record c) c) := by
  induction records generalizing c with
  | nil => exact hreach
  | cons record records ih =>
    apply ih
    apply reachable_schedule
    refine hreach.tail (.start _ hcpu ?_)
    have htimes : ∀ ns∈(emissionOf inv record).times, ns=inv.ktime .loss := by
      intro ns hns
      unfold emissionOf at hns
      split at hns
      · exact absurd hns List.not_mem_nil
      · exact List.mem_singleton.mp hns
      · exact List.mem_singleton.mp hns
    intro hzero
    exact hclock (htimes 0 hzero).symm

theorem tells_initial (begun : EventIntegrity.TraceIntegrity) : Tells {integrity := begun} {} :=
  ⟨fun _ => rfl,fun _ => rfl,fun _ failure => by cases failure <;> rfl,rfl,rfl,rfl⟩

/-- What the runtime submits at first is what some run of the channel comes to. -/
theorem exists_run_submitAll {cpus : ℕ} (state fdState notify : Bool)
    (hcpu : inv.cpu.toNat < cpus) (hclock : inv.ktime .loss≠0) {records : List TraceEventEnvelope}
    (hlegacy : ∀ record∈records, record.legacyIntegrity=false) :
    ∃ c, Reachable cpus state fdState notify c ∧
      Tells c (BpfRuntime.submitAll inv records {}) :=
  ⟨_,reachable_submitAll .refl hcpu hclock records,tells_submitAll (tells_initial _) hlegacy⟩

end Submissions

end StraceGo.EventChannelRuntime

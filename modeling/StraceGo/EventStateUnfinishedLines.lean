import StraceGo.EventStateCandidates

/-!
# Unfinished lines and their resumed ones

An open enter is named by the position of the record that opened it. The
output answers every offered view once, by marking its line printed or by
requeueing it. Over every run with that protocol the two candidate sets stay
apart, an enter is offered again only after a requeue and never after it was
marked, and the snapshot an exit consumes says exactly whether its line is out.
-/

namespace StraceGo.EventStateUnfinishedLines

open EventEnvelope FiniteMaps ObjectPool EventPayloadStorage EventSyscallCorrelation
  EventTaskLifecycle EventUnfinishedState EventState EventSyscallOwnership EventStateContents
  EventStateFrame EventStateRuns EventStateTimeline EventStateInterleaving EventStateCandidates

section Positions

variable (tables : SyscallTables) (config : SessionConfig) (ops : List Operation)

/-- The record at a position opens an enter of a thread. -/
def Opens (i : ℕ) (tid : UInt32) : Prop :=
  ∃ record, recordAt ops i=some record ∧ opensEnter (contentsAt tables config ops i) record tid

/-- The enter opened at `i` is still open before the call at `j`. -/
def OpenSince (i j : ℕ) (tid : UInt32) : Prop :=
  Opens tables config ops i tid ∧ i < j ∧ ∀ m, i ≤ m → m < j →
    (contentsAt tables config ops (m+1)).pending tid≠none ∧
      (i < m → ¬Opens tables config ops m tid)

/-- A generic enter at a position carries the marker of a line that is already out. -/
def Probes (i : ℕ) (tid : UInt32) : Prop :=
  ∃ record, recordAt ops i=some record ∧ isGenericEnterRecord record=true ∧ record.tid=tid ∧
    2 ≤ record.probeRetEnter

/-- The line of the enter opened at `i` was marked printed before `j`. -/
def Marked (i j : ℕ) (tid : UInt32) : Prop :=
  ∃ m, i < m ∧ m < j ∧ ops[m]?=some (.markUnfinishedPrinted tid)

/-- The enter opened at `i` carried the marker before `j`. -/
def Probed (i j : ℕ) (tid : UInt32) : Prop := ∃ m, i ≤ m ∧ m < j ∧ Probes ops m tid

/-- A thread's view comes with the update at a position. -/
def Offered (i : ℕ) (tid : UInt32) : Prop :=
  ∃ update, updateAt tables config ops i=some update ∧ ∃ v∈update.unfinished, v.tid=tid

/-- The call at a position answers a thread's view. -/
def Answers (i : ℕ) (tid : UInt32) : Prop :=
  ops[i]?=some (.markUnfinishedPrinted tid) ∨ ops[i]?=some (.requeueUnfinished tid)

/-- The output answers exactly the views it is given, each once before the next record. -/
structure Answered : Prop where
  /-- Every answer is the first one to a view of the latest record. -/
  each : ∀ m tid, Answers ops m tid → ∃ j < m, Offered tables config ops j tid ∧
    ∀ k, j < k → k < m → recordAt ops k=none ∧ ¬Answers ops k tid
  /-- Every view is answered before the next record. -/
  all : ∀ j tid, Offered tables config ops j tid → ∀ k, j < k → recordAt ops k≠none →
    ∃ m, j < m ∧ m < k ∧ Answers ops m tid

end Positions

section Since

variable {tables : SyscallTables} {config : SessionConfig} {ops : List Operation}
  {i k j : ℕ} {tid : UInt32}

theorem openSince_self (h : Opens tables config ops j tid)
    (hpending : (contentsAt tables config ops (j+1)).pending tid≠none) :
    OpenSince tables config ops j (j+1) tid := by
  refine ⟨h,Nat.lt_succ_self j,fun m hm hm' => ?_⟩
  obtain rfl : m=j := by omega
  exact ⟨hpending,fun hlt => absurd hlt (Nat.lt_irrefl m)⟩

theorem OpenSince.step (h : OpenSince tables config ops i j tid)
    (hpending : (contentsAt tables config ops (j+1)).pending tid≠none)
    (hnot : ¬Opens tables config ops j tid) : OpenSince tables config ops i (j+1) tid := by
  refine ⟨h.1,by have := h.2.1; omega,fun m hm hm' => ?_⟩
  by_cases heq : m=j
  · subst heq
    exact ⟨hpending,fun _ => hnot⟩
  · exact h.2.2 m hm (by omega)

theorem OpenSince.unique (h : OpenSince tables config ops i j tid)
    (h' : OpenSince tables config ops k j tid) : i=k := by
  rcases lt_trichotomy i k with hlt | heq | hlt
  · exact absurd h'.1 ((h.2.2 k hlt.le h'.2.1).2 hlt)
  · exact heq
  · exact absurd h.1 ((h'.2.2 i hlt.le h.2.1).2 hlt)

/-- An enter open after a call that does not open one was open before it. -/
theorem OpenSince.before (h : OpenSince tables config ops i (j+1) tid)
    (hnot : ¬Opens tables config ops j tid) : OpenSince tables config ops i j tid := by
  have hne : i≠j := fun heq => hnot (heq ▸ h.1)
  exact ⟨h.1,by have := h.2.1; omega,fun m hm hm' => h.2.2 m hm (by omega)⟩

/-- An enter opened by a call is open since that call. -/
theorem OpenSince.eq_of_opens (h : OpenSince tables config ops i (j+1) tid)
    (hopens : Opens tables config ops j tid) : i=j := by
  by_contra hne
  have hlt : i < j := by have := h.2.1; omega
  exact (h.2.2 j hlt.le (by omega)).2 hlt hopens

/-- Something happened before the next position exactly if it did before this one, or at it. -/
theorem between_succ {lower happens : ℕ → Prop} :
    (∃ m, lower m ∧ m < j+1 ∧ happens m) ↔
      (∃ m, lower m ∧ m < j ∧ happens m) ∨ lower j ∧ happens j := by
  constructor
  · rintro ⟨m,him,hmj,hm⟩
    by_cases heq : m=j
    · subst heq
      exact .inr ⟨him,hm⟩
    · exact .inl ⟨m,him,by omega,hm⟩
  · rintro (⟨m,him,hmj,hm⟩ | ⟨hij,hj⟩)
    · exact ⟨m,him,by omega,hm⟩
    · exact ⟨j,hij,by omega,hj⟩

theorem marked_succ : Marked ops i (j+1) tid ↔
    Marked ops i j tid ∨ i < j ∧ ops[j]?=some (.markUnfinishedPrinted tid) := between_succ

theorem probed_succ : Probed ops i (j+1) tid ↔
    Probed ops i j tid ∨ i ≤ j ∧ Probes ops j tid := between_succ

theorem not_marked_self : ¬Marked ops i (i+1) tid := by
  rintro ⟨m,him,hmi,-⟩
  omega

end Since

section Entered

variable {a : Contents} {view : SyscallEventView} {payload : List PayloadSection}

theorem printed_of_opened (h : a.sameSyscall view=false) :
    (a.enteredValue view payload).unfinishedPrinted=decide (2 ≤ view.probeRetEnter) := by
  unfold Contents.enteredValue
  unfold Contents.sameSyscall at h
  cases hpending : a.pending view.tid with
  | none => rfl
  | some v =>
    rw [hpending,Option.any_some] at h
    dsimp only
    rw [if_neg (fun heq => Bool.false_ne_true (h.symm.trans (beq_iff_eq.mpr heq)))]
    rfl

theorem printed_of_merged (h : a.sameSyscall view=true) (payload : List PayloadSection) :
    ∃ v, a.pending view.tid=some v ∧ (a.enteredValue view payload).unfinishedPrinted=
      (v.unfinishedPrinted || decide (2 ≤ view.probeRetEnter)) := by
  unfold Contents.sameSyscall at h
  unfold Contents.enteredValue
  cases hpending : a.pending view.tid with
  | none =>
    rw [hpending] at h
    cases h
  | some v =>
    rw [hpending,Option.any_some] at h
    refine ⟨v,rfl,?_⟩
    dsimp only
    rw [if_pos (beq_iff_eq.mp h)]
    rfl

end Entered

section Lines

variable {tables : SyscallTables} {config : SessionConfig} {ops : List Operation}
  {i k j : ℕ} {tid : UInt32}

theorem not_opens_of_none (tables : SyscallTables) (config : SessionConfig)
    (h : recordAt ops j=none) (tid : UInt32) : ¬Opens tables config ops j tid := by
  rintro ⟨record,hrecord,-⟩
  cases h.symm.trans hrecord

theorem not_probes_of_none (h : recordAt ops j=none) (tid : UInt32) : ¬Probes ops j tid := by
  rintro ⟨record,hrecord,-⟩
  cases h.symm.trans hrecord

variable (hops : ∀ op∈ops, op.isTaint=false)
include hops

/-- What a handled record does to the line of a thread. -/
theorem printed_handle {record : TraceEventEnvelope} (hrecord : recordAt ops j=some record)
    {v : EnterValue} (h : (contentsAt tables config ops (j+1)).pending tid=some v) :
    Opens tables config ops j tid ∧ (v.unfinishedPrinted=true ↔ Probes ops j tid) ∨
      ¬Opens tables config ops j tid ∧ ∃ w, (contentsAt tables config ops j).pending tid=some w ∧
        (v.unfinishedPrinted=true ↔ w.unfinishedPrinted=true ∨ Probes ops j tid) := by
  have hopens : Opens tables config ops j tid ↔
      opensEnter (contentsAt tables config ops j) record tid := by
    constructor
    · rintro ⟨other,hother,hopens⟩
      obtain rfl := Option.some.inj (hrecord.symm.trans hother)
      exact hopens
    · exact fun hopens => ⟨record,hrecord,hopens⟩
  have hprobes : Probes ops j tid ↔ isGenericEnterRecord record=true ∧ record.tid=tid ∧
      2 ≤ record.probeRetEnter := by
    constructor
    · rintro ⟨other,hother,hprobes⟩
      obtain rfl := Option.some.inj (hrecord.symm.trans hother)
      exact hprobes
    · exact fun hprobes => ⟨record,hrecord,hprobes⟩
  rw [(handle_contentsAt tables config hops j hrecord).1] at h
  rw [hopens,hprobes]
  rcases pending_handle rfl h with ⟨hgeneric,rfl,rfl⟩ | ⟨hnot,w,hw,hsame⟩
  · cases hsyscall : (contentsAt tables config ops j).sameSyscall record.syscallView with
    | false =>
      refine .inl ⟨⟨hgeneric,rfl,hsyscall⟩,?_⟩
      rw [printed_of_opened hsyscall,decide_eq_true_eq]
      exact ⟨fun h => ⟨hgeneric,rfl,h⟩,fun h => h.2.2⟩
    | true =>
      obtain ⟨w,hw,hprinted⟩ := printed_of_merged hsyscall record.payload
      refine .inr ⟨fun hboth => Bool.false_ne_true (hboth.2.2.symm.trans hsyscall),w,hw,?_⟩
      rw [hprinted,Bool.or_eq_true,decide_eq_true_eq]
      exact or_congr_right ⟨fun h => ⟨hgeneric,rfl,h⟩,fun h => h.2.2⟩
  · refine .inr ⟨fun hboth => hnot ⟨hboth.1,hboth.2.1⟩,w,hw,?_⟩
    rw [hsame]
    exact ⟨.inl,fun h => h.elim id fun hboth => absurd ⟨hboth.1,hboth.2.1⟩ hnot⟩

/-- What a call does to the line of a thread. -/
theorem printed_step {v : EnterValue}
    (h : (contentsAt tables config ops (j+1)).pending tid=some v) :
    Opens tables config ops j tid ∧ (v.unfinishedPrinted=true ↔ Probes ops j tid) ∨
      ¬Opens tables config ops j tid ∧ ∃ w, (contentsAt tables config ops j).pending tid=some w ∧
        (v.unfinishedPrinted=true ↔ w.unfinishedPrinted=true ∨
          ops[j]?=some (.markUnfinishedPrinted tid) ∨ Probes ops j tid) := by
  cases hrecord : recordAt ops j with
  | some record =>
    have hmark : ops[j]?≠some (.markUnfinishedPrinted tid) := by
      rw [getElem_of_recordAt hrecord]
      exact fun heq => nomatch heq
    rcases printed_handle hops hrecord h with hopened | ⟨hnot,w,hw,hprinted⟩
    · exact .inl hopened
    · refine .inr ⟨hnot,w,hw,hprinted.trans (or_congr_right ?_)⟩
      exact ⟨.inr,fun h => h.elim (fun heq => absurd heq hmark) id⟩
  | none =>
    have hprobes := not_probes_of_none hrecord tid
    refine .inr ⟨not_opens_of_none tables config hrecord tid,?_⟩
    cases hop : ops[j]? with
    | none =>
      unfold contentsAt at h ⊢
      rw [systemAt_succ_of_none hop] at h
      refine ⟨v,h,.inl,fun hany => ?_⟩
      rcases hany with hprinted | heq | hprobe
      · exact hprinted
      · cases heq
      · exact absurd hprobe hprobes
    | some op =>
      have hnot : ∀ record, op≠.handle record := ne_handle_of_recordAt hrecord hop
      rw [contentsAt_succ tables config hops j hop] at h
      rcases pending_applyContents tables (systemAt tables config ops j)
        (contentsAt tables config ops j) (hops op (List.mem_of_getElem? hop)) hnot with
        hsame | ⟨other,rfl,hmarked⟩
      · rw [hsame] at h
        by_cases hmark : op=.markUnfinishedPrinted tid
        · subst hmark
          have hprinted : Function.update (contentsAt tables config ops j).pending tid
              (((contentsAt tables config ops j).pending tid).map fun v =>
                {v with unfinishedPrinted := true}) tid=
                (contentsAt tables config ops j).pending tid := congrFun hsame tid
          rw [Function.update_self,h,Option.map_some] at hprinted
          have htrue : v.unfinishedPrinted=true := by
            rw [←Option.some.inj hprinted]
          exact ⟨v,h,fun _ => .inl htrue,fun _ => htrue⟩
        · refine ⟨v,h,.inl,fun hany => ?_⟩
          rcases hany with hprinted | heq | hprobe
          · exact hprinted
          · exact absurd (Option.some.inj heq) hmark
          · exact absurd hprobe hprobes
      · rw [hmarked] at h
        change Function.update (contentsAt tables config ops j).pending other _ tid=some v at h
        by_cases heq : tid=other
        · subst heq
          rw [Function.update_self] at h
          obtain ⟨w,hw,rfl⟩ := Option.map_eq_some_iff.mp h
          exact ⟨w,hw,fun _ => .inr (.inl rfl),fun _ => rfl⟩
        · rw [Function.update_of_ne heq] at h
          refine ⟨v,h,.inl,fun hany => ?_⟩
          rcases hany with hprinted | hmark | hprobe
          · exact hprinted
          · cases hmark
            exact absurd rfl heq
          · exact absurd hprobe hprobes

/-- An open enter was opened by some record, and its line is out exactly if it was marked or
carried the marker since. -/
theorem printed_since {v : EnterValue}
    (h : (contentsAt tables config ops j).pending tid=some v) :
    ∃ i, OpenSince tables config ops i j tid ∧
      (v.unfinishedPrinted=true ↔ Marked ops i j tid ∨ Probed ops i j tid) := by
  induction j generalizing v with
  | zero => cases h
  | succ j ih =>
    have hpresent : (contentsAt tables config ops (j+1)).pending tid≠none := by
      rw [h]
      exact Option.some_ne_none v
    rcases printed_step hops h with ⟨hopens,hprinted⟩ | ⟨hnot,w,hw,hprinted⟩
    · refine ⟨j,openSince_self hopens hpresent,?_⟩
      rw [hprinted,probed_succ]
      constructor
      · exact fun hprobes => .inr (.inr ⟨le_rfl,hprobes⟩)
      · rintro (hmarked | ⟨m,hjm,hmj,-⟩ | ⟨-,hprobes⟩)
        · exact absurd hmarked not_marked_self
        · omega
        · exact hprobes
    · obtain ⟨i,hsince,hbefore⟩ := ih hw
      have hij : i < j := hsince.2.1
      refine ⟨i,hsince.step hpresent hnot,?_⟩
      rw [hprinted,hbefore,marked_succ,probed_succ]
      simp only [hij,hij.le,true_and]
      exact or_or_or_comm

/-- Whether the line of an open enter is out. -/
theorem printed_iff {v : EnterValue} (h : (contentsAt tables config ops j).pending tid=some v)
    (hsince : OpenSince tables config ops i j tid) :
    v.unfinishedPrinted=true ↔ Marked ops i j tid ∨ Probed ops i j tid := by
  obtain ⟨k,hk,hprinted⟩ := printed_since hops h
  obtain rfl := hsince.unique hk
  exact hprinted

end Lines

/-- The line of a candidate is not out. -/
theorem printed_of_isCandidate {tables : SyscallTables} {pending : PendingSyscallState}
    (h : isCandidate tables pending=true) : pending.unfinishedPrinted=false := by
  unfold isCandidate at h
  rw [Bool.not_eq_true',Bool.or_eq_false_iff,Bool.or_eq_false_iff] at h
  exact h.1.1

section Candidates

variable {tables : SyscallTables} {config : SessionConfig} {ops : List Operation}
  {i k j : ℕ} {tid : UInt32} (hops : ∀ op∈ops, op.isTaint=false)
include hops

/-- The candidates after a handled record. -/
theorem unfinished_succ {record : TraceEventEnvelope} (hrecord : recordAt ops j=some record) :
    (systemAt tables config ops (j+1)).st.unfinished=
      track tables (policy tables (newTraceStateForSession config))
        (contentsAt tables config ops j)
        ((systemAt tables config ops j).st.unfinished.pendingForOtherTID tables record.tid
          (systemAt tables config ops j).st.correlation).1 record := by
  rw [systemAt_succ (getElem_of_recordAt hrecord),←policy_systemAt tables config hops j]
  exact (unfinished_handleEnvelope tables _ (remembers_systemAt tables config hops j)
    (untainted_systemAt tables config hops j) record).1

theorem unfinished_update {record : TraceEventEnvelope} (hrecord : recordAt ops j=some record)
    {update : TraceStateUpdate} (hupdate : updateAt tables config ops j=some update) :
    update.unfinished=((systemAt tables config ops j).st.unfinished.pendingForOtherTID tables
      record.tid (systemAt tables config ops j).st.correlation).2 := by
  obtain rfl := Option.some.inj ((updateAt_eq tables config hrecord).symm.trans hupdate)
  exact (unfinished_handleEnvelope tables _ (remembers_systemAt tables config hops j)
    (untainted_systemAt tables config hops j) record).2

variable (htext : config.textMode=true)
include htext

theorem enabled_systemAt (tables : SyscallTables) (j : ℕ) :
    (systemAt tables config ops j).st.unfinished.enabled=true :=
  ((keeps_systemAt tables config hops j).enabled).trans htext

/-- What a record offers: the other unqueued threads whose enter is still a candidate. -/
theorem offered_iff {record : TraceEventEnvelope} (hrecord : recordAt ops j=some record) :
    Offered tables config ops j tid ↔ record.tid≠0 ∧ tid≠record.tid ∧
      tid∈(systemAt tables config ops j).st.unfinished.unqueued ∧
      offeredView tables (systemAt tables config ops j).st.correlation tid≠none := by
  have hupdate := updateAt_eq tables config hrecord
  have hviews := unfinished_update hops hrecord hupdate
  have hkeyed := pendingKeyed_contentsAt tables config hops j
  have hmeaning : Offered tables config ops j tid ↔
      ∃ v∈((systemAt tables config ops j).st.unfinished.pendingForOtherTID tables
        record.tid (systemAt tables config ops j).st.correlation).2, v.tid=tid := by
    rw [←hviews]
    constructor
    · rintro ⟨update,hother,hv⟩
      rw [Option.some.inj (hupdate.symm.trans hother)]
      exact hv
    · exact fun hv => ⟨_,hupdate,hv⟩
  rw [hmeaning]
  by_cases hzero : record.tid=0
  · have hnone : ((systemAt tables config ops j).st.unfinished.pendingForOtherTID tables
        record.tid (systemAt tables config ops j).st.correlation).2=[] := by
      unfold TraceUnfinishedState.pendingForOtherTID
      rw [if_pos (.inr hzero)]
    rw [hnone]
    simp [hzero]
  · obtain ⟨-,-,hlist,-,-⟩ := pendingForOtherTID_spec tables
      (systemAt tables config ops j).st.correlation (proper_systemAt tables config hops j)
      (enabled_systemAt hops htext tables j) hzero
    rw [hlist]
    constructor
    · rintro ⟨v,hv,rfl⟩
      rw [List.mem_insertionSort,List.mem_filterMap] at hv
      obtain ⟨other,hmem,hview⟩ := hv
      rw [List.mem_filter,decide_eq_true_eq] at hmem
      have hother := tid_of_offeredView hkeyed hview
      rw [hother,hview]
      exact ⟨hzero,hmem.2,hmem.1,Option.some_ne_none v⟩
    · rintro ⟨-,hne,hmem,hview⟩
      obtain ⟨v,hv⟩ := Option.ne_none_iff_exists'.mp hview
      refine ⟨v,?_,tid_of_offeredView hkeyed hv⟩
      rw [List.mem_insertionSort,List.mem_filterMap]
      exact ⟨tid,List.mem_filter.mpr ⟨hmem,decide_eq_true hne⟩,hv⟩

/-- The candidates left after a record has made its offers. -/
theorem offers_left (tables : SyscallTables) {record : TraceEventEnvelope}
    (hrecord : recordAt ops j=some record) :
    let u := ((systemAt tables config ops j).st.unfinished.pendingForOtherTID tables
      record.tid (systemAt tables config ops j).st.correlation).1
    Proper u ∧ u.enabled=true ∧
      (∀ other∈u.unqueued, other∈(systemAt tables config ops j).st.unfinished.unqueued ∧
        (record.tid≠0 → other=record.tid)) ∧
      ∀ other∈u.inFlight, other∈(systemAt tables config ops j).st.unfinished.inFlight ∨
        Offered tables config ops j other := by
  intro u
  have hproper := proper_systemAt tables config hops j
  have henabled := enabled_systemAt hops htext tables j
  by_cases hzero : record.tid=0
  · have hsame : u=(systemAt tables config ops j).st.unfinished := by
      unfold u TraceUnfinishedState.pendingForOtherTID
      rw [if_pos (.inr hzero)]
    rw [hsame]
    exact ⟨hproper,henabled,fun other hmem => ⟨hmem,fun hne => absurd hzero hne⟩,
      fun other hmem => .inl hmem⟩
  · obtain ⟨hleft,hmode,-,hunqueued,hflight⟩ := pendingForOtherTID_spec tables
      (systemAt tables config ops j).st.correlation hproper henabled hzero
    refine ⟨hleft,hmode,fun other hmem => ?_,fun other hmem => ?_⟩
    · obtain ⟨heq,hin⟩ := (hunqueued other).mp hmem
      exact ⟨hin,fun _ => heq⟩
    · rcases hflight other hmem with hin | ⟨hne,hin,hview⟩
      · exact .inl hin
      · exact .inr ((offered_iff hops htext hrecord).mpr ⟨hzero,hne,hin,hview⟩)

/-- How a thread comes to be unqueued after a call. -/
theorem unqueued_step
    (hmem : tid∈(systemAt tables config ops (j+1)).st.unfinished.unqueued) :
    Opens tables config ops j tid ∧ (contentsAt tables config ops (j+1)).pending tid≠none ∨
      ¬Opens tables config ops j tid ∧ ops[j]?≠some (.markUnfinishedPrinted tid) ∧
        tid∈(systemAt tables config ops j).st.unfinished.unqueued ∧
        ((contentsAt tables config ops j).pending tid≠none →
          (contentsAt tables config ops (j+1)).pending tid≠none) ∨
      ¬Opens tables config ops j tid ∧ ops[j]?=some (.requeueUnfinished tid) ∧
        ∃ v, (contentsAt tables config ops (j+1)).pending tid=some v ∧
          v.unfinishedPrinted=false := by
  cases hrecord : recordAt ops j with
  | some record =>
    have hmark : ops[j]?≠some (.markUnfinishedPrinted tid) := by
      rw [getElem_of_recordAt hrecord]
      exact fun heq => nomatch heq
    obtain ⟨hproper,henabled,hleft,-⟩ := offers_left hops htext tables hrecord
    rw [unfinished_succ hops hrecord] at hmem
    rw [(handle_contentsAt tables config hops j hrecord).1]
    rcases mem_unqueued_track hproper henabled (keyed_contentsAt tables config hops j) rfl hmem with
      ⟨hopens,hpending⟩ | ⟨hnot,hin,hkept⟩
    · exact .inl ⟨⟨record,hrecord,hopens⟩,hpending⟩
    · refine .inr (.inl ⟨?_,hmark,(hleft tid hin).1,hkept⟩)
      rintro ⟨other,hother,hopens⟩
      obtain rfl := Option.some.inj (hrecord.symm.trans hother)
      exact hnot hopens
  | none =>
    have hnot := not_opens_of_none tables config hrecord tid
    cases hop : ops[j]? with
    | none =>
      unfold contentsAt
      rw [systemAt_succ_of_none hop] at hmem ⊢
      exact .inr (.inl ⟨hnot,fun h => (nomatch h),hmem,id⟩)
    | some op =>
      have hhandle : ∀ record, op≠.handle record := ne_handle_of_recordAt hrecord hop
      have htaint := hops op (List.mem_of_getElem? hop)
      have hproper := proper_systemAt tables config hops j
      have henabled := enabled_systemAt hops htext tables j
      have hcontents := contentsAt_succ tables config hops j hop
      have hpending := pending_applyContents tables (systemAt tables config ops j)
        (contentsAt tables config ops j) htaint hhandle
      rw [←hcontents] at hpending
      rw [systemAt_succ hop] at hmem
      rcases unfinished_apply (systemAt tables config ops j) htaint hhandle with
        ⟨hsame,hneither⟩ | ⟨other,rfl,hmarked⟩ | ⟨other,rfl,hrequeued⟩
      · rw [hsame] at hmem
        refine .inr (.inl ⟨hnot,fun h => (hneither tid).1 (Option.some.inj h),hmem,fun h => ?_⟩)
        rcases hpending with heq | ⟨other,heq,-⟩
        · rw [heq]
          exact h
        · exact absurd heq (hneither other).1
      · rw [hmarked] at hmem
        obtain ⟨hne,hin⟩ := (mem_unqueued_deleteCandidate hproper henabled).mp hmem
        refine .inr (.inl ⟨hnot,fun h => ?_,hin,fun h => ?_⟩)
        · cases h
          exact hne rfl
        · have hother : (contentsAt tables config ops (j+1)).pending tid=
              (contentsAt tables config ops j).pending tid := by
            rw [hcontents]
            exact Function.update_of_ne hne _ _
          rw [hother]
          exact h
      · have hkept : (contentsAt tables config ops (j+1)).pending=
            (contentsAt tables config ops j).pending := by
          rw [hcontents]
          rfl
        rw [hrequeued,mem_unqueued_requeue hproper] at hmem
        rcases hmem with ⟨hne,hin⟩ | ⟨rfl,hcandidate⟩
        · refine .inr (.inl ⟨hnot,fun h => (nomatch h),hin,fun h => ?_⟩)
          rw [hkept]
          exact h
        · obtain ⟨pending,hlookup,hcandidate⟩ := (Option.any_eq_true _ _).mp hcandidate
          refine .inr (.inr ⟨hnot,rfl,enterValue (systemAt tables config ops
            j).st.correlation.payload pending,?_,printed_of_isCandidate hcandidate⟩)
          rw [hkept,(remembers_systemAt tables config hops j).pending_eq,hlookup,Option.map_some]

/-- How a thread comes to be in flight after a call. -/
theorem inFlight_step (hmem : tid∈(systemAt tables config ops (j+1)).st.unfinished.inFlight) :
    Offered tables config ops j tid ∨ ¬Answers ops j tid ∧
      tid∈(systemAt tables config ops j).st.unfinished.inFlight := by
  cases hrecord : recordAt ops j with
  | some record =>
    have hanswer : ¬Answers ops j tid := by
      unfold Answers
      rw [getElem_of_recordAt hrecord]
      exact fun h => h.elim (fun h => nomatch h) (fun h => nomatch h)
    obtain ⟨-,-,-,hflight⟩ := offers_left hops htext tables hrecord
    rw [unfinished_succ hops hrecord] at hmem
    rcases hflight tid (mem_inFlight_track hmem) with hin | hoffered
    · exact .inr ⟨hanswer,hin⟩
    · exact .inl hoffered
  | none =>
    right
    unfold Answers
    cases hop : ops[j]? with
    | none =>
      rw [systemAt_succ_of_none hop] at hmem
      exact ⟨fun h => h.elim (fun h => nomatch h) (fun h => nomatch h),hmem⟩
    | some op =>
      have hhandle : ∀ record, op≠.handle record := ne_handle_of_recordAt hrecord hop
      have htaint := hops op (List.mem_of_getElem? hop)
      have hproper := proper_systemAt tables config hops j
      have henabled := enabled_systemAt hops htext tables j
      rw [systemAt_succ hop] at hmem
      rcases unfinished_apply (systemAt tables config ops j) htaint hhandle with
        ⟨hsame,hneither⟩ | ⟨other,rfl,hmarked⟩ | ⟨other,rfl,hrequeued⟩
      · rw [hsame] at hmem
        exact ⟨fun h => h.elim (fun h => (hneither tid).1 (Option.some.inj h))
          (fun h => (hneither tid).2 (Option.some.inj h)),hmem⟩
      · rw [hmarked] at hmem
        obtain ⟨hne,hin⟩ := (mem_inFlight_deleteCandidate hproper henabled).mp hmem
        refine ⟨fun h => h.elim (fun h => ?_) (fun h => nomatch h),hin⟩
        cases h
        exact hne rfl
      · rw [hrequeued,mem_inFlight_requeue hproper] at hmem
        obtain ⟨hne,hin⟩ := hmem
        refine ⟨fun h => h.elim (fun h => nomatch h) (fun h => ?_),hin⟩
        cases h
        exact hne rfl

/-- Every unqueued thread has an open enter whose line was not marked since. -/
theorem unqueued_open (hmem : tid∈(systemAt tables config ops j).st.unfinished.unqueued) :
    (contentsAt tables config ops j).pending tid≠none ∧
      ∀ i, OpenSince tables config ops i j tid → ¬Marked ops i j tid := by
  induction j with
  | zero => exact absurd hmem List.not_mem_nil
  | succ j ih =>
    rcases unqueued_step hops htext hmem with
      ⟨hopens,hpending⟩ | ⟨hnot,hmark,hin,hkept⟩ | ⟨-,-,v,hv,hprinted⟩
    · refine ⟨hpending,fun i hsince => ?_⟩
      obtain rfl := hsince.eq_of_opens hopens
      exact not_marked_self
    · obtain ⟨hpending,hfree⟩ := ih hin
      refine ⟨hkept hpending,fun i hsince hmarked => ?_⟩
      rcases marked_succ.mp hmarked with hearlier | ⟨-,hlast⟩
      · exact hfree i (hsince.before hnot) hearlier
      · exact hmark hlast
    · refine ⟨fun hnone => Option.some_ne_none v (hv.symm.trans hnone),fun i hsince hmarked => ?_⟩
      have htrue := (printed_iff hops hv hsince).mpr (.inl hmarked)
      exact Bool.false_ne_true (hprinted.symm.trans htrue)

/-- An offered enter is open and its line is not out. -/
theorem offered_open (h : Offered tables config ops j tid) :
    ∃ v, (contentsAt tables config ops j).pending tid=some v ∧ v.unfinishedPrinted=false := by
  have hrecord : ∃ record, recordAt ops j=some record := by
    obtain ⟨update,hupdate,-⟩ := h
    obtain ⟨record,hrecord,-⟩ := Option.map_eq_some_iff.mp hupdate
    exact ⟨record,hrecord⟩
  obtain ⟨record,hrecord⟩ := hrecord
  obtain ⟨-,-,-,hview⟩ := (offered_iff hops htext hrecord).mp h
  obtain ⟨v,hv⟩ := Option.ne_none_iff_exists'.mp hview
  obtain ⟨pending,hlookup,hcandidate,-⟩ := lookup_of_offeredView hv
  refine ⟨enterValue (systemAt tables config ops j).st.correlation.payload pending,?_,
    printed_of_isCandidate hcandidate⟩
  rw [(remembers_systemAt tables config hops j).pending_eq,hlookup,Option.map_some]

/-- An enter marked printed is not offered again. -/
theorem not_offered_of_marked (hsince : OpenSince tables config ops i k tid)
    (hmarked : Marked ops i k tid) : ¬Offered tables config ops k tid := by
  intro hoffered
  obtain ⟨v,hv,hprinted⟩ := offered_open hops htext hoffered
  have htrue := (printed_iff hops hv hsince).mpr (.inl hmarked)
  exact Bool.false_ne_true (hprinted.symm.trans htrue)

/-- An offered thread is not unqueued any more. -/
theorem not_unqueued_of_offered (h : Offered tables config ops j tid) :
    ¬Opens tables config ops j tid ∧
      tid∉(systemAt tables config ops (j+1)).st.unfinished.unqueued := by
  have hrecord : ∃ record, recordAt ops j=some record := by
    obtain ⟨update,hupdate,-⟩ := h
    obtain ⟨record,hrecord,-⟩ := Option.map_eq_some_iff.mp hupdate
    exact ⟨record,hrecord⟩
  obtain ⟨record,hrecord⟩ := hrecord
  obtain ⟨hzero,hne,-,-⟩ := (offered_iff hops htext hrecord).mp h
  obtain ⟨hproper,henabled,hleft,-⟩ := offers_left hops htext tables hrecord
  constructor
  · rintro ⟨other,hother,hopens⟩
    obtain rfl := Option.some.inj (hrecord.symm.trans hother)
    exact hne hopens.2.1.symm
  · intro hmem
    rw [unfinished_succ hops hrecord] at hmem
    rcases mem_unqueued_track hproper henabled (keyed_contentsAt tables config hops j) rfl hmem with
      ⟨hopens,-⟩ | ⟨-,hin,-⟩
    · exact hne hopens.2.1.symm
    · exact hne ((hleft tid hin).2 hzero)

/-- An enter is offered again only after it was requeued. -/
theorem requeued_of_offered (hsince : OpenSince tables config ops i k tid) (hij : i < j)
    (hjk : j < k) (hfirst : Offered tables config ops j tid)
    (hagain : Offered tables config ops k tid) :
    ∃ m, j < m ∧ m < k ∧ ops[m]?=some (.requeueUnfinished tid) := by
  have hstays : ∀ n, j < n → n ≤ k →
      tid∈(systemAt tables config ops n).st.unfinished.unqueued →
      ∃ m, j < m ∧ m < n ∧ ops[m]?=some (.requeueUnfinished tid) := by
    intro n hjn hnk hmem
    induction n, hjn using Nat.le_induction with
    | base => exact absurd hmem (not_unqueued_of_offered hops htext hfirst).2
    | succ n hjn ih =>
      have hnot : ¬Opens tables config ops n tid :=
        (hsince.2.2 n (by omega) (by omega)).2 (by omega)
      rcases unqueued_step hops htext hmem with ⟨hopens,-⟩ | ⟨-,-,hin,-⟩ | ⟨-,hrequeue,-⟩
      · exact absurd hopens hnot
      · obtain ⟨m,hjm,hmn,hm⟩ := ih (by omega) hin
        exact ⟨m,hjm,by omega,hm⟩
      · exact ⟨n,by omega,by omega,hrequeue⟩
  obtain ⟨update,hupdate,-⟩ := id hagain
  obtain ⟨record,hrecord,-⟩ := Option.map_eq_some_iff.mp hupdate
  obtain ⟨-,-,hin,-⟩ := (offered_iff hops htext hrecord).mp hagain
  exact hstays k hjk le_rfl hin

/-- A thread in flight waits for the answer to a view of the latest record. -/
theorem inFlight_waits (hanswered : Answered tables config ops)
    (hmem : tid∈(systemAt tables config ops j).st.unfinished.inFlight) :
    ∃ m < j, Offered tables config ops m tid ∧
      ∀ k, m < k → k < j → recordAt ops k=none ∧ ¬Answers ops k tid := by
  induction j with
  | zero => exact absurd hmem List.not_mem_nil
  | succ j ih =>
    rcases inFlight_step hops htext hmem with hoffered | ⟨hanswer,hin⟩
    · exact ⟨j,Nat.lt_succ_self j,hoffered,fun k hjk hkj => by omega⟩
    · obtain ⟨m,hmj,hoffered,hquiet⟩ := ih hin
      have hrecord : recordAt ops j=none := by
        by_contra hrecord
        obtain ⟨n,hmn,hnj,hn⟩ := hanswered.all m tid hoffered j hmj hrecord
        exact (hquiet n hmn hnj).2 hn
      refine ⟨m,by omega,hoffered,fun k hmk hkj => ?_⟩
      by_cases heq : k=j
      · rw [heq]
        exact ⟨hrecord,hanswer⟩
      · exact hquiet k hmk (by omega)

/-- Nothing is in flight when a record arrives. -/
theorem inFlight_empty (hanswered : Answered tables config ops) (hrecord : recordAt ops j≠none) :
    (systemAt tables config ops j).st.unfinished.inFlight=[] := by
  rw [List.eq_nil_iff_forall_not_mem]
  intro tid hmem
  obtain ⟨m,hmj,hoffered,hquiet⟩ := inFlight_waits hops htext hanswered hmem
  obtain ⟨n,hmn,hnj,hn⟩ := hanswered.all m tid hoffered j hmj hrecord
  exact (hquiet n hmn hnj).2 hn

end Candidates

section Snapshots

variable {p : Policy} {a : Contents} {record : TraceEventEnvelope} {v : EnterValue}

/-- The enter an exit is reported with was open, or is made up for an elided one. -/
theorem pendingEnter_handle (htainted : p.tainted=false)
    (h : (handle p a record).2.pendingEnter=some v) :
    a.pending record.tid=some v ∨
      p.elided record.sysID=true ∧ v=Contents.synthesizedValue record.syscallView := by
  have hmatched : ∀ view : SyscallEventView, (matched p a view).2=some v →
      a.pending view.tid=some v ∨
        p.elided view.sysID=true ∧ v=Contents.synthesizedValue view := by
    intro view hview
    have hconsumed : ∀ w, (consume p a view).2=some w → a.pending view.tid=some w := by
      intro w hw
      unfold consume trusted Contents.consumedEnter at hw
      dsimp only at hw
      rw [htainted,Bool.false_and,if_neg Bool.false_ne_true] at hw
      split_ifs at hw
      exact (Option.filter_eq_some_iff.mp hw).1
    unfold matched at hview
    revert hconsumed hview
    rcases consume p a view with ⟨b,value⟩
    intro hview hconsumed
    cases value with
    | some w =>
      obtain rfl := Option.some.inj hview
      exact .inl (hconsumed w rfl)
    | none =>
      dsimp only at hview
      split_ifs at hview with helided
      exact .inr ⟨helided,(Option.some.inj hview).symm⟩
  rcases handle_cases p a record with
    ⟨-,heq⟩ | ⟨-,-,heq⟩ | ⟨-,heq⟩ | ⟨-,-,-,heq⟩ | ⟨-,heq⟩
  all_goals rw [heq] at h
  · cases h
  · unfold handleLifecycle at h
    dsimp only at h
    split_ifs at h
  · unfold handleEnter at h
    dsimp only at h
    split at h
    all_goals cases h
  · cases h
  · rw [handleExit_eq] at h
    split_ifs at h
    exact hmatched record.syscallView h

/-- A stored exit joined with the enter that just arrived is handed out with that enter. -/
theorem entered_of_attach (htainted : p.tainted=false) {e : ExitValue} {d : DeferredValue}
    {view : SyscallEventView} {payload : List PayloadSection} (hkey : e.view.tid=view.tid)
    (h : (attach p ((a.rememberEnterEvent view payload).setExit view.tid none) e).2=some d)
    (hv : d.pendingEnter=some v) : v=a.enteredValue view payload := by
  have hconsumed : ∀ w, (consume p ((a.rememberEnterEvent view payload).setExit view.tid none)
      e.view).2=some w → w=a.enteredValue view payload := by
    intro w hw
    unfold consume trusted Contents.consumedEnter at hw
    dsimp only at hw
    rw [htainted,Bool.false_and,if_neg Bool.false_ne_true] at hw
    split_ifs at hw
    have hpending := (Option.filter_eq_some_iff.mp hw).1
    rw [hkey] at hpending
    have hself : ((a.rememberEnterEvent view payload).setExit view.tid none).pending view.tid=
        some (a.enteredValue view payload) := Function.update_self ..
    exact Option.some.inj (hpending.symm.trans hself)
  unfold attach at h
  revert hconsumed h
  rcases consume p ((a.rememberEnterEvent view payload).setExit view.tid none) e.view with
    ⟨b,value⟩
  intro h hconsumed
  cases value with
  | none => cases h
  | some w =>
    obtain rfl := Option.some.inj h
    obtain rfl := Option.some.inj hv
    exact hconsumed w rfl

/-- The enter a stored exit is handed out with was just entered. -/
theorem deferredEnter_handle (htainted : p.tainted=false) (hkeyed : Keyed a) {d : DeferredValue}
    (h : (handle p a record).2.deferredExit=some d) (hv : d.pendingEnter=some v) :
    isGenericEnterRecord record=true ∧
      v=a.enteredValue record.syscallView record.payload := by
  rcases handle_cases p a record with
    ⟨-,heq⟩ | ⟨-,-,heq⟩ | ⟨hgeneric,heq⟩ | ⟨-,-,-,heq⟩ | ⟨-,heq⟩
  all_goals rw [heq] at h
  · cases h
  · unfold handleLifecycle at h
    dsimp only at h
    split_ifs at h
    all_goals
      obtain ⟨e,-,rfl⟩ := Option.map_eq_some_iff.mp h
      cases hv
  · refine ⟨hgeneric,?_⟩
    unfold handleEnter entering at h
    rw [htainted,if_neg Bool.false_ne_true] at h
    dsimp only at h
    revert h
    cases htaken : (a.rememberEnterEvent record.syscallView record.payload).takenExit
        record.syscallView with
    | none => exact fun h => nomatch h
    | some e =>
      intro h
      exact entered_of_attach htainted (hkeyed _ e (Option.filter_eq_some_iff.mp htaken).1) h hv
  · cases h
  · rw [handleExit_eq] at h
    split_ifs at h

end Snapshots

section Pairs

variable (tables : SyscallTables) (config : SessionConfig) (ops : List Operation)

/-- A syscall line is interrupted at most once and resumed exactly if it was interrupted. -/
structure PairsUp : Prop where
  /-- The candidate sets are disjoint. -/
  disjoint : ∀ j, ∀ tid∈(systemAt tables config ops j).st.unfinished.inFlight,
    tid∉(systemAt tables config ops j).st.unfinished.unqueued
  /-- Nothing is in flight when a record arrives. -/
  settled : ∀ j, recordAt ops j≠none → (systemAt tables config ops j).st.unfinished.inFlight=[]
  /-- An unqueued thread has an open enter, whose line is not out unless it carried the marker. -/
  unqueued : ∀ j, ∀ tid∈(systemAt tables config ops j).st.unfinished.unqueued,
    ∃ i v, OpenSince tables config ops i j tid ∧
      (contentsAt tables config ops j).pending tid=some v ∧
      (v.unfinishedPrinted=true → Probed ops i j tid)
  /-- An enter is offered again only after a requeue. -/
  requeued : ∀ i j k tid, OpenSince tables config ops i k tid → i < j → j < k →
    Offered tables config ops j tid → Offered tables config ops k tid →
    ∃ m, j < m ∧ m < k ∧ ops[m]?=some (.requeueUnfinished tid)
  /-- An enter marked printed is never offered again. -/
  final : ∀ i k tid, OpenSince tables config ops i k tid → Marked ops i k tid →
    ¬Offered tables config ops k tid
  /-- The snapshot of a consumed enter says whether its line is out; a snapshot made up for an
  elided enter says no. -/
  resumed : ∀ j record update ref, recordAt ops j=some record →
    updateAt tables config ops j=some update → update.pendingEnter=some ref →
    (∃ i, OpenSince tables config ops i j record.tid ∧
      ((snapshotAt (systemAt tables config ops (j+1)).st.correlation ref).unfinishedPrinted=true ↔
        Marked ops i j record.tid ∨ Probed ops i j record.tid)) ∨
    (newTraceStateForSession config).shouldSynthesizeElidedPlainEnter tables record.sysID=true ∧
      snapshotAt (systemAt tables config ops (j+1)).st.correlation ref=
        Contents.synthesizedValue record.syscallView
  /-- So does the snapshot that goes with a stored exit, opened before or by the same record. -/
  deferred : ∀ j record update d ref, recordAt ops j=some record →
    updateAt tables config ops j=some update → update.deferredExit=some d →
    d.pendingEnter=some ref →
    ∃ i, (i=j ∧ Opens tables config ops j record.tid ∨
        OpenSince tables config ops i j record.tid ∧ ¬Opens tables config ops j record.tid) ∧
      ((snapshotAt (systemAt tables config ops (j+1)).st.correlation ref).unfinishedPrinted=true ↔
        Marked ops i (j+1) record.tid ∨ Probed ops i (j+1) record.tid)

end Pairs

section Outcomes

variable {tables : SyscallTables} {config : SessionConfig} {ops : List Operation} {j : ℕ}
  {record : TraceEventEnvelope} (hops : ∀ op∈ops, op.isTaint=false)
include hops

/-- Whether the line of an enter is out once a generic enter has been merged into it. -/
theorem printed_entered (hrecord : recordAt ops j=some record)
    (hgeneric : isGenericEnterRecord record=true) :
    ∃ i, (i=j ∧ Opens tables config ops j record.tid ∨
        OpenSince tables config ops i j record.tid ∧ ¬Opens tables config ops j record.tid) ∧
      (((contentsAt tables config ops j).enteredValue record.syscallView
          record.payload).unfinishedPrinted=true ↔
        Marked ops i (j+1) record.tid ∨ Probed ops i (j+1) record.tid) := by
  have hmark : ops[j]?≠some (.markUnfinishedPrinted record.tid) := by
    rw [getElem_of_recordAt hrecord]
    exact fun heq => nomatch heq
  have hprobes : Probes ops j record.tid ↔ 2 ≤ record.probeRetEnter := by
    constructor
    · rintro ⟨other,hother,-,-,hprobe⟩
      obtain rfl := Option.some.inj (hrecord.symm.trans hother)
      exact hprobe
    · exact fun hprobe => ⟨record,hrecord,hgeneric,rfl,hprobe⟩
  cases hsyscall : (contentsAt tables config ops j).sameSyscall record.syscallView with
  | false =>
    refine ⟨j,.inl ⟨rfl,record,hrecord,hgeneric,rfl,hsyscall⟩,?_⟩
    rw [printed_of_opened hsyscall,decide_eq_true_eq,probed_succ]
    change 2 ≤ record.probeRetEnter ↔ _
    rw [←hprobes]
    constructor
    · exact fun hprobe => .inr (.inr ⟨le_rfl,hprobe⟩)
    · rintro (hmarked | ⟨m,hjm,hmj,-⟩ | ⟨-,hprobe⟩)
      · exact absurd hmarked not_marked_self
      · omega
      · exact hprobe
  | true =>
    obtain ⟨w,hw,hprinted⟩ := printed_of_merged hsyscall record.payload
    obtain ⟨i,hsince,hbefore⟩ := printed_since hops hw
    have hij : i < j := hsince.2.1
    refine ⟨i,.inr ⟨hsince,?_⟩,?_⟩
    · rintro ⟨other,hother,hopens⟩
      obtain rfl := Option.some.inj (hrecord.symm.trans hother)
      exact Bool.false_ne_true (hopens.2.2.symm.trans hsyscall)
    · rw [hprinted,Bool.or_eq_true,hbefore,decide_eq_true_eq,marked_succ,probed_succ]
      change _ ∨ 2 ≤ record.probeRetEnter ↔ _
      rw [←hprobes]
      simp only [hij,hij.le,true_and,hmark,or_false,or_assoc]
      rfl

end Outcomes

/-- Over every lossless run in text mode whose output answers each view once before the next
record, unfinished and resumed lines pair up. -/
theorem unfinished_lines_pair (tables : SyscallTables) (config : SessionConfig)
    (htext : config.textMode=true) (ops : List Operation) (hops : ∀ op∈ops, op.isTaint=false)
    (hanswered : Answered tables config ops) : PairsUp tables config ops where
  disjoint := fun j => (proper_systemAt tables config hops j).disjoint
  settled := fun j => inFlight_empty hops htext hanswered
  unqueued := by
    intro j tid hmem
    obtain ⟨hpending,hfree⟩ := unqueued_open hops htext hmem
    obtain ⟨v,hv⟩ := Option.ne_none_iff_exists'.mp hpending
    obtain ⟨i,hsince,hprinted⟩ := printed_since hops hv
    exact ⟨i,v,hsince,hv,fun htrue => (hprinted.mp htrue).resolve_left (hfree i hsince)⟩
  requeued := fun i j k tid => requeued_of_offered hops htext
  final := fun i k tid => not_offered_of_marked hops htext
  resumed := by
    intro j record update ref hrecord hupdate href
    have houtcome := outcome_updateAt hops hrecord hupdate
    have hreported : (handle (policy tables (newTraceStateForSession config))
        (contentsAt tables config ops j) record).2.pendingEnter=
        some (snapshotAt (systemAt tables config ops (j+1)).st.correlation ref) := by
      rw [←houtcome]
      unfold outcome
      rw [href,Option.map_some]
    rcases pendingEnter_handle rfl hreported with hpending | ⟨helided,hmade⟩
    · exact .inl (printed_since hops hpending)
    · exact .inr ⟨helided,hmade⟩
  deferred := by
    intro j record update d ref hrecord hupdate hd href
    have houtcome := outcome_updateAt hops hrecord hupdate
    have hreported : (handle (policy tables (newTraceStateForSession config))
        (contentsAt tables config ops j) record).2.deferredExit=some ⟨d.syscallView,some
          (snapshotAt (systemAt tables config ops (j+1)).st.correlation ref)⟩ := by
      rw [←houtcome]
      unfold outcome
      rw [hd,Option.map_some,href,Option.map_some]
    obtain ⟨hgeneric,hentered⟩ := deferredEnter_handle rfl
      (keyed_contentsAt tables config hops j) hreported rfl
    rw [hentered]
    exact printed_entered hops hrecord hgeneric

section Samples

/-- Names of a sample table without routes of their own. -/
def writeTables : SyscallTables := ⟨fun _ => "write",fun _ => false,fun _ => false⟩

theorem Offered.tids {tables : SyscallTables} {config : SessionConfig} {ops : List Operation}
    {j : ℕ} {tid : UInt32} (h : Offered tables config ops j tid) (tids : List UInt32)
    (htids : (updateAt tables config ops j).map (fun update => update.unfinished.map (·.tid))=
      some tids) : tid∈tids := by
  obtain ⟨update,hupdate,v,hv,rfl⟩ := h
  rw [hupdate,Option.map_some] at htids
  rw [←Option.some.inj htids]
  exact List.mem_map_of_mem hv

/-- An enter that carries the marker is unqueued although its line counts as out. -/
theorem markedEnter_unqueued :
    let record := {writeRecord 7 .enter bpfEventFlagGenericEnter 100 [] with probeRetEnter := 2}
    Answered writeTables {} [.handle record] ∧
      (systemAt writeTables {} [.handle record] 1).st.unfinished.unqueued=[7] ∧
      ((contentsAt writeTables {} [.handle record] 1).pending 7).map (·.unfinishedPrinted)=
        some true := by
  intro record
  refine ⟨⟨fun m tid h => ?_,fun j tid h k hjk hk => ?_⟩,by decide +kernel,by decide +kernel⟩
  · exfalso
    unfold Answers at h
    cases m with
    | zero => exact h.elim (fun h => nomatch h) (fun h => nomatch h)
    | succ m => exact h.elim (fun h => nomatch h) (fun h => nomatch h)
  · cases k with
    | zero => omega
    | succ k => exact absurd rfl hk

/-- A write of thread 9 is interrupted by thread 7 and resumed. -/
theorem unfinished_lines_pair_write :
    let ops := [Operation.handle (writeRecord 9 .enter bpfEventFlagGenericEnter 100 []),
      .handle (writeRecord 7 .enter bpfEventFlagGenericEnter 120 []),.markUnfinishedPrinted 9,
      .handle (writeRecord 9 .exit 0 100 [])]
    PairsUp writeTables {} ops ∧ Offered writeTables {} ops 1 9 := by
  intro ops
  have hoffered : Offered writeTables {} ops 1 9 := by
    refine ⟨_,rfl,?_⟩
    have htids : (((updateAt writeTables {} ops 1).map (·.unfinished)).getD []).map (·.tid)=
        [9] := by
      decide +kernel
    exact List.mem_map.mp (htids ▸ List.mem_singleton_self 9)
  refine ⟨unfinished_lines_pair writeTables {} rfl ops (fun op hmem => ?_) ⟨?_,?_⟩,hoffered⟩
  · simp only [ops,List.mem_cons,List.not_mem_nil,or_false] at hmem
    rcases hmem with rfl | rfl | rfl | rfl <;> rfl
  · intro m tid h
    have hm : m=2 ∧ tid=9 := by
      unfold Answers at h
      rcases m with _ | _ | _ | _ | m
      · rcases h with h | h <;> cases h
      · rcases h with h | h <;> cases h
      · rcases h with h | h
        · cases h
          exact ⟨rfl,rfl⟩
        · cases h
      · rcases h with h | h <;> cases h
      · rcases h with h | h <;> cases h
    obtain ⟨rfl,rfl⟩ := hm
    exact ⟨1,by omega,hoffered,fun k h h' => by omega⟩
  · intro j tid h k hjk hk
    have hk4 : k < 4 := by
      by_contra hge
      apply hk
      unfold recordAt
      rw [List.getElem?_eq_none (by simp only [ops,List.length_cons,List.length_nil]; omega)]
    rcases j with _ | _ | _ | j
    · exact absurd (h.tids [] (by decide +kernel)) List.not_mem_nil
    · obtain rfl := List.mem_singleton.mp (h.tids [9] (by decide +kernel))
      have hlast : k=2 ∨ k=3 := by omega
      rcases hlast with rfl | rfl
      · exact absurd rfl hk
      · exact ⟨2,by omega,by omega,.inl rfl⟩
    · obtain ⟨update,hupdate,-⟩ := h
      cases hupdate
    · omega

end Samples

end StraceGo.EventStateUnfinishedLines

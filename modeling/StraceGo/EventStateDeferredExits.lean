import StraceGo.EventStateTimeline

/-!
# Exits that wait for their enter

A record that finds no enter is stored under its thread until a matching enter
or the end of the thread releases it. Along a run a stored record is named by
the position of the call that stored it, so that it is told apart from any
other record with the same contents. A stored record is handed out at most
once, to its own enter or at the end of its thread, and the ways in which it
can be lost are listed completely.
-/

namespace StraceGo.EventStateDeferredExits

open EventEnvelope FiniteMaps ObjectPool EventPayloadStorage EventSyscallCorrelation
  EventTaskLifecycle EventUnfinishedState EventState EventSyscallOwnership EventStateContents
  EventStateFrame EventStateRuns EventStateTimeline EventStateInterleaving

/-- Why a stored record is lost when another record arrives: a later unmatched record replaces
it, an enter does not match it, an enter matches it but it is no exit, a terminating syscall of
its thread returns (by an exit, or by any record if its enter is elided), or an exec moves
another thread to its number. -/
def LostTo (p : Policy) (deferred : Bool) (tid : UInt32) (stored : SyscallEventView)
    (record : TraceEventEnvelope) : Prop :=
  isEdgeRecord record=true ∧ record.tid=tid ∧ deferred=true ∨
  isGenericEnterRecord record=true ∧ record.tid=tid ∧
    (record.sysID≠stored.sysID ∨ record.enterTime≠stored.enterTime) ∨
  isGenericEnterRecord record=true ∧ record.tid=tid ∧ record.sysID=stored.sysID ∧
    record.enterTime=stored.enterTime ∧ stored.isExit=false ∨
  isEdgeRecord record=true ∧ record.tid=tid ∧ p.terminating record.syscallView=true ∧
    (record.syscallView.isExit=true ∨ p.elided record.sysID=true) ∨
  record.isLifecycle=true ∧ TraceState.movesThread record.lifecycleView ∧
    TraceState.execTID record.lifecycleView=tid

/-- What one record does to the stored ones. -/
structure Fates (p : Policy) (a : Contents) (record : TraceEventEnvelope)
    (out : Contents×Outcome) : Prop where
  /-- A deferred record is stored under its thread. -/
  stored : out.2.deferred=true → isEdgeRecord record=true ∧ out.2.deferredExit=none ∧
    out.1.exits=Function.update a.exits record.tid (some ⟨record.syscallView,record.payload⟩)
  /-- Any other record stores nothing. -/
  kept : out.2.deferred=false → ∀ tid, out.1.exits tid=a.exits tid ∨ out.1.exits tid=none
  /-- What is handed out was stored, and is not stored any more. -/
  returned : ∀ d, out.2.deferredExit=some d → out.1.exits record.tid=none ∧
    (∃ e, a.exits record.tid=some e ∧ e.view=d.view) ∧
    (endsThread record=true ∨ isGenericEnterRecord record=true ∧ d.view.sysID=record.sysID ∧
      d.view.enterTime=record.enterTime)
  /-- A stored record that is gone was handed out or lost. -/
  gone : ∀ tid e, a.exits tid=some e → out.2.deferred=true ∧ record.tid=tid ∨
    out.1.exits tid=none → (record.tid=tid ∧ ∃ d, out.2.deferredExit=some d) ∨
      LostTo p out.2.deferred tid e.view record
  /-- The end of a thread hands its stored record out. -/
  ended : endsThread record=true → ∀ e, a.exits record.tid=some e →
    ∃ d, out.2.deferredExit=some d ∧ d.view=e.view

section Handlers

variable {p : Policy} {a : Contents} {record : TraceEventEnvelope}

/-- A record that only clears threads, and loses what they stored. -/
theorem fates_cleared {out : Contents×Outcome} {cleared : UInt32 → Prop} [DecidablePred cleared]
    (hexits : ∀ tid, out.1.exits tid=if cleared tid then none else a.exits tid)
    (hdeferred : out.2.deferred=false) (hexit : out.2.deferredExit=none)
    (hlost : ∀ tid e, a.exits tid=some e → cleared tid → LostTo p false tid e.view record)
    (hends : endsThread record=false) : Fates p a record out where
  stored := by
    intro h
    rw [hdeferred] at h
    cases h
  kept := by
    intro _ tid
    rw [hexits]
    split_ifs
    · exact .inr rfl
    · exact .inl rfl
  returned := by
    intro d h
    rw [hexit] at h
    cases h
  gone := by
    intro tid e he hgone
    rw [hdeferred] at hgone ⊢
    rcases hgone with hgone | hgone
    · cases hgone.1
    · rw [hexits,he] at hgone
      split_ifs at hgone with hcleared
      exact .inr (hlost tid e he hcleared)
  ended := by
    intro h
    rw [hends] at h
    cases h

theorem fates_unchanged {out : Contents×Outcome} (hexits : out.1.exits=a.exits)
    (hdeferred : out.2.deferred=false) (hexit : out.2.deferredExit=none)
    (hends : endsThread record=false) : Fates p a record out :=
  fates_cleared (fun tid => (congrFun hexits tid).trans (if_neg not_false).symm) hdeferred hexit
    (fun _ _ _ h => h.elim) hends

/-- Consuming an enter leaves the stored records. -/
theorem exits_consume (htainted : p.tainted=false) (view : SyscallEventView) :
    (consume p a view).1.exits=a.exits := by
  unfold consume trusted Contents.consumeEnterEvent
  dsimp only
  rw [htainted,Bool.false_and,if_neg Bool.false_ne_true]
  split_ifs <;> rfl

/-- A terminating syscall drops the stored record of its thread. -/
theorem exits_finish (view : SyscallEventView) (tid : UInt32) :
    (finish p a view).exits tid=
      if p.terminating view=true ∧ tid=view.tid then none else a.exits tid := by
  unfold finish Contents.clearTask
  by_cases hterminating : p.terminating view=true
  · rw [if_pos hterminating]
    dsimp only
    by_cases heq : tid=view.tid
    · rw [heq,Function.update_self,if_pos ⟨hterminating,rfl⟩]
    · rw [Function.update_of_ne heq,if_neg (fun h => heq h.2)]
  · rw [if_neg hterminating,if_neg (fun h => hterminating h.1)]

theorem exits_clearTask (a : Contents) (other tid : UInt32) :
    (a.clearTask other).exits tid=if tid=other then none else a.exits tid := by
  unfold Contents.clearTask
  dsimp only
  split_ifs with heq
  · rw [heq,Function.update_self]
  · rw [Function.update_of_ne heq]

theorem exits_setExit_none (a : Contents) (other tid : UInt32) :
    (a.setExit other none).exits tid=if tid=other then none else a.exits tid := by
  unfold Contents.setExit
  dsimp only
  split_ifs with heq
  · rw [heq,Function.update_self]
  · rw [Function.update_of_ne heq]

/-- Stored records after a lifecycle record: an exec drops the one of the number it moves to. -/
theorem exits_execCleared (htainted : p.tainted=false) (view : LifecycleEventView)
    (tid : UInt32) :
    (execCleared p a view).exits tid=
      if TraceState.movesThread view ∧ tid=TraceState.execTID view then none
      else a.exits tid := by
  have hforgotten : execForgotten p a view=a := by
    unfold execForgotten
    rw [htainted,if_neg (fun h => Bool.false_ne_true h.1)]
  unfold execCleared
  rw [hforgotten]
  by_cases hmoves : TraceState.movesThread view
  · rw [if_pos hmoves,exits_clearTask]
    simp only [hmoves,true_and]
  · rw [if_neg hmoves,if_neg (fun h => hmoves h.1)]

theorem fates_lifecycle (htainted : p.tainted=false) (hsignal : record.isSignal=false)
    (hlifecycle : record.isLifecycle=true) :
    Fates p a record (handleLifecycle p a record.lifecycleView) := by
  have hcleared := exits_execCleared (a := a) htainted record.lifecycleView
  have hends : endsThread record=true ↔ ¬(record.lifecycleView.action≠lifecycleExit ∧
      record.lifecycleView.action≠lifecycleFree) := by
    unfold endsThread
    rw [hsignal,hlifecycle]
    change (record.lifecycleAction==_ || record.lifecycleAction==_)=true ↔
      ¬(record.lifecycleAction≠_ ∧ record.lifecycleAction≠_)
    simp only [Bool.or_eq_true,beq_iff_eq]
    tauto
  unfold handleLifecycle
  dsimp only
  by_cases hlives : record.lifecycleView.action≠lifecycleExit ∧
      record.lifecycleView.action≠lifecycleFree
  · rw [if_pos hlives]
    refine fates_cleared hcleared rfl rfl (fun tid e _ hmoves => ?_)
      (Bool.eq_false_iff.mpr fun h => hends.mp h hlives)
    exact .inr (.inr (.inr (.inr ⟨hlifecycle,hmoves.1,hmoves.2.symm⟩)))
  · have hstays : ¬TraceState.movesThread record.lifecycleView := by
      intro hmoves
      have haction : record.lifecycleView.action=lifecycleExec := hmoves.1
      rw [haction] at hlives
      exact hlives (by decide)
    have hsame : ∀ tid, (execCleared p a record.lifecycleView).exits tid=a.exits tid := by
      intro tid
      rw [hcleared,if_neg (fun h => hstays h.1)]
    rw [if_neg hlives]
    have hafter : ∀ tid, (if record.lifecycleView.tid=0 then
        (execCleared p a record.lifecycleView).setExit record.lifecycleView.tid none
      else ((execCleared p a record.lifecycleView).setExit record.lifecycleView.tid
        none).clearTask record.lifecycleView.tid).exits tid=
          if tid=record.tid then none else a.exits tid := by
      intro tid
      change _=if tid=record.lifecycleView.tid then none else a.exits tid
      split_ifs with hzero heq heq
      · rw [exits_setExit_none,if_pos heq]
      · rw [exits_setExit_none,if_neg heq,hsame]
      · rw [exits_clearTask,if_pos heq]
      · rw [exits_clearTask,if_neg heq,exits_setExit_none,if_neg heq,hsame]
    constructor
    · intro h
      cases h
    · intro _ tid
      dsimp only
      rw [hafter]
      split_ifs
      · exact .inr rfl
      · exact .inl rfl
    · intro d h
      dsimp only at h ⊢
      rw [hsame] at h
      obtain ⟨e,he,hd⟩ := Option.map_eq_some_iff.mp h
      rw [hafter,if_pos rfl]
      exact ⟨rfl,⟨e,he,by rw [←hd]⟩,.inl (hends.mpr hlives)⟩
    · intro tid e he hgone
      rcases hgone with hgone | hgone
      · cases hgone.1
      · dsimp only at hgone
        rw [hafter,he] at hgone
        split_ifs at hgone with heq
        refine .inl ⟨heq.symm,?_⟩
        dsimp only
        rw [hsame]
        change ∃ d, (a.exits record.tid).map _=some d
        rw [←heq,he]
        exact ⟨_,rfl⟩
    · intro _ e he
      dsimp only
      rw [hsame]
      change ∃ d, (a.exits record.tid).map _=some d ∧ _
      rw [he]
      exact ⟨_,rfl,rfl⟩

/-- The enter just opened belongs to the syscall of its record. -/
theorem sysID_enteredValue (a : Contents) (view : SyscallEventView)
    (payload : List PayloadSection) : (a.enteredValue view payload).sysID=view.sysID := by
  unfold Contents.enteredValue
  cases hpending : a.pending view.tid with
  | none => rfl
  | some v =>
    dsimp only
    by_cases hsame : v.sysID=view.sysID
    · rw [if_pos hsame]
      exact hsame
    · rw [if_neg hsame]
      rfl

/-- Joining a stored record with an enter of its syscall hands it out exactly if it is an exit. -/
theorem attach_stored (htainted : p.tainted=false) {e : ExitValue} {v : EnterValue}
    (hpending : a.pending e.view.tid=some v) (hsysID : v.sysID=e.view.sysID)
    (hexits : a.exits e.view.tid=none) :
    (attach p a e).1.exits=a.exits ∧
      (e.view.isExit=true → (attach p a e).2=some ⟨e.view,some v⟩) ∧
      (e.view.isExit=false → (attach p a e).2=none) := by
  have hconsumed := exits_consume (a := a) htainted e.view
  have hvalue : (consume p a e.view).2=if e.view.isExit=false then none else some v := by
    unfold consume trusted Contents.consumedEnter
    dsimp only
    rw [htainted,Bool.false_and,if_neg Bool.false_ne_true,hpending,Option.filter_some]
    simp only [hsysID,beq_self_eq_true,if_true]
  unfold attach
  revert hconsumed hvalue
  rcases consume p a e.view with ⟨b,value⟩
  intro hconsumed hvalue
  dsimp only at hconsumed hvalue
  by_cases hexit : e.view.isExit=false
  · rw [if_pos hexit] at hvalue
    subst hvalue
    exact ⟨hconsumed,fun h => absurd (hexit.symm.trans h) Bool.false_ne_true,fun _ => rfl⟩
  · rw [if_neg hexit] at hvalue
    subst hvalue
    refine ⟨?_,fun _ => rfl,fun h => absurd h hexit⟩
    funext tid
    dsimp only
    rw [exits_finish,hconsumed]
    split_ifs with hterminating
    · rw [hterminating.2,hexits]
    · rfl

theorem fates_enter (htainted : p.tainted=false) (hkeyed : Keyed a)
    (hgeneric : isGenericEnterRecord record=true) :
    Fates p a record (handleEnter p a record.syscallView record.payload) := by
  have hends := endsThread_of_isSyscallRecord (Bool.and_eq_true_iff.mp hgeneric).1
  have hentering : entering p a record.syscallView=a := by
    unfold entering
    rw [htainted,if_neg Bool.false_ne_true]
  have hcleared : ∀ tid, ((a.rememberEnterEvent record.syscallView record.payload).setExit
      record.syscallView.tid none).exits tid=if tid=record.tid then none else a.exits tid :=
    exits_setExit_none _ record.syscallView.tid
  unfold handleEnter
  dsimp only
  rw [hentering]
  cases htaken : (a.rememberEnterEvent record.syscallView record.payload).takenExit
      record.syscallView with
  | none =>
    refine fates_cleared hcleared rfl rfl (fun tid e he heq => ?_) hends
    have hstored : (a.rememberEnterEvent record.syscallView record.payload).exits
        record.syscallView.tid=some e := by
      change a.exits record.tid=some e
      rw [←heq]
      exact he
    have hmismatch : ¬(e.view.sysID=record.sysID ∧ e.view.enterTime=record.enterTime) := by
      intro hmatch
      unfold Contents.takenExit at htaken
      rw [hstored,Option.filter_some] at htaken
      change (if e.view.sysID==record.sysID && e.view.enterTime==record.enterTime then _
        else _)=none at htaken
      rw [hmatch.1,hmatch.2,beq_self_eq_true,beq_self_eq_true,if_pos (by rfl)] at htaken
      cases htaken
    refine .inr (.inl ⟨hgeneric,heq.symm,?_⟩)
    by_cases hsysID : record.sysID=e.view.sysID
    · exact .inr fun htime => hmismatch ⟨hsysID.symm,htime.symm⟩
    · exact .inl hsysID
  | some e =>
    obtain ⟨hstored,hmatch⟩ := Option.filter_eq_some_iff.mp htaken
    have hstored : a.exits record.tid=some e := hstored
    have htid : e.view.tid=record.tid := hkeyed record.tid e hstored
    rw [Bool.and_eq_true_iff,beq_iff_eq,beq_iff_eq] at hmatch
    obtain ⟨hexits,hreturned,hlost⟩ := attach_stored (e := e)
      (a := (a.rememberEnterEvent record.syscallView record.payload).setExit
        record.syscallView.tid none) (v := a.enteredValue record.syscallView record.payload)
      htainted (by rw [htid]; exact Function.update_self ..)
      ((sysID_enteredValue a _ _).trans hmatch.1.symm) (by rw [htid,hcleared,if_pos rfl])
    constructor
    · intro h
      cases h
    · intro _ tid
      dsimp only
      rw [hexits,hcleared]
      split_ifs
      · exact .inr rfl
      · exact .inl rfl
    · intro d h
      dsimp only at h ⊢
      rw [hexits,hcleared,if_pos rfl]
      refine ⟨rfl,⟨e,hstored,?_⟩,.inr ⟨hgeneric,?_⟩⟩
      all_goals
        by_cases hexit : e.view.isExit=true
        · rw [hreturned hexit] at h
          obtain rfl := Option.some.inj h
          first
          | rfl
          | exact hmatch
        · rw [hlost (Bool.eq_false_iff.mpr hexit)] at h
          cases h
    · intro tid e' he' hgone
      rcases hgone with hgone | hgone
      · cases hgone.1
      · dsimp only at hgone
        rw [hexits,hcleared,he'] at hgone
        split_ifs at hgone with heq
        rw [heq,hstored] at he'
        obtain rfl := Option.some.inj he'
        by_cases hexit : e.view.isExit=true
        · exact .inl ⟨heq.symm,_,hreturned hexit⟩
        · exact .inr (.inr (.inr (.inl ⟨hgeneric,heq.symm,hmatch.1.symm,hmatch.2.symm,
            Bool.eq_false_iff.mpr hexit⟩)))
    · intro h
      rw [hends] at h
      cases h

/-- Matching an exit record leaves the stored records. -/
theorem exits_matched (htainted : p.tainted=false) (view : SyscallEventView) :
    (matched p a view).1.exits=a.exits := by
  have hconsumed := exits_consume (a := a) htainted view
  unfold matched
  revert hconsumed
  rcases consume p a view with ⟨b,value⟩
  intro hconsumed
  cases value with
  | none => exact hconsumed
  | some v => exact hconsumed

/-- A record that finds an enter is an exit, or its enter is elided. -/
theorem exit_of_matched {view : SyscallEventView}
    (hmatched : (matched p a view).2≠none) : view.isExit=true ∨ p.elided view.sysID=true := by
  by_cases hexit : view.isExit=true
  · exact .inl hexit
  · have hconsumed : (consume p a view).2=none := by
      unfold consume Contents.consumedEnter
      dsimp only
      rw [if_pos (Bool.eq_false_iff.mpr hexit)]
    unfold matched at hmatched
    revert hconsumed hmatched
    rcases consume p a view with ⟨b,value⟩
    intro hmatched hconsumed
    dsimp only at hconsumed
    subst hconsumed
    dsimp only at hmatched
    by_contra hneither
    rw [not_or] at hneither
    rw [if_neg hneither.2] at hmatched
    exact hmatched rfl

theorem fates_exit (htainted : p.tainted=false) (hdefer : p.deferUnmatchedExits=true)
    (hedge : isEdgeRecord record=true) :
    Fates p a record (handleExit p a record.syscallView record.payload) := by
  have hsyscall : isSyscallRecord record=true := by
    unfold isEdgeRecord at hedge
    simp only [Bool.and_eq_true] at hedge
    exact hedge.1.1.1
  have hends := endsThread_of_isSyscallRecord hsyscall
  have hmatched := exits_matched (a := a) htainted record.syscallView
  rw [handleExit_eq]
  by_cases hdefers : (matched p a record.syscallView).2=none ∧ p.deferUnmatchedExits=true ∧
      p.tainted=false
  · rw [if_pos hdefers]
    have hstored : ((matched p a record.syscallView).1.setExit record.syscallView.tid
        (some ⟨record.syscallView,record.payload⟩)).exits=
        Function.update a.exits record.tid (some ⟨record.syscallView,record.payload⟩) := by
      unfold Contents.setExit
      dsimp only
      rw [hmatched]
      rfl
    constructor
    · intro _
      exact ⟨hedge,rfl,hstored⟩
    · intro h
      cases h
    · intro d h
      cases h
    · intro tid e he hgone
      refine .inr (.inl ⟨hedge,?_,rfl⟩)
      rcases hgone with hgone | hgone
      · exact hgone.2
      · dsimp only at hgone
        rw [hstored] at hgone
        by_contra hne
        rw [Function.update_of_ne (fun h => hne h.symm),he] at hgone
        cases hgone
    · intro h
      rw [hends] at h
      cases h
  · rw [if_neg hdefers]
    have hfound : (matched p a record.syscallView).2≠none :=
      fun h => hdefers ⟨h,hdefer,htainted⟩
    have hfinished := exits_finish (p := p) (a := (matched p a record.syscallView).1)
      record.syscallView
    refine fates_cleared (fun tid => (hfinished tid).trans (by rw [hmatched])) rfl rfl
      (fun tid e _ hterminating => ?_) hends
    exact .inr (.inr (.inr (.inl ⟨hedge,hterminating.2.symm,hterminating.1,
      exit_of_matched hfound⟩)))

theorem exits_handleFragment (view : SyscallEventView) (payload : List PayloadSection) :
    (handleFragment p a view payload).exits=a.exits := by
  unfold handleFragment
  split_ifs
  · rfl
  · rfl

/-- What a record that does not go the way of exits does to the stored ones. -/
theorem fates_of_not_edge (htainted : p.tainted=false) (hkeyed : Keyed a)
    (hedge : isEdgeRecord record=false) : Fates p a record (handle p a record) := by
  rcases handle_cases p a record with ⟨hsignal,heq⟩ | ⟨hsignal,hlifecycle,heq⟩ |
    ⟨hgeneric,heq⟩ | ⟨hsyscall,-,-,heq⟩ | ⟨hexit,heq⟩
  · rw [heq]
    exact fates_unchanged rfl rfl rfl (by unfold endsThread; rw [hsignal]; rfl)
  · rw [heq]
    exact fates_lifecycle htainted hsignal hlifecycle
  · rw [heq]
    exact fates_enter htainted hkeyed hgeneric
  · rw [heq]
    exact fates_unchanged (exits_handleFragment _ _) rfl rfl
      (endsThread_of_isSyscallRecord hsyscall)
  · rw [hedge] at hexit
    exact absurd hexit Bool.false_ne_true

/-- What one record does to the stored ones, for a session without losses. -/
theorem handle_fates (htainted : p.tainted=false) (hdefer : p.deferUnmatchedExits=true)
    (hkeyed : Keyed a) :
    Fates p a record (handle p a record) := by
  by_cases hedge : isEdgeRecord record=true
  · rw [handle_of_isEdgeRecord hedge]
    exact fates_exit htainted hdefer hedge
  · exact fates_of_not_edge htainted hkeyed (Bool.eq_false_iff.mpr hedge)

end Handlers

section Runs

variable (tables : SyscallTables) (config : SessionConfig) (ops : List Operation)

/-- The record handled at a position is stored there. -/
def Stores (i : ℕ) (record : TraceEventEnvelope) : Prop :=
  recordAt ops i=some record ∧
    ∃ update, updateAt tables config ops i=some update ∧ update.deferred=true

/-- The record stored at `i` has not left the map before the call at `j`: every call in between
leaves an entry of its thread, and none stores another one. -/
def Holds (i j : ℕ) (record : TraceEventEnvelope) : Prop :=
  Stores tables config ops i record ∧ i < j ∧ ∀ m, i < m → m < j →
    (contentsAt tables config ops (m+1)).exits record.tid≠none ∧
      ∀ other, Stores tables config ops m other → other.tid≠record.tid

/-- The call at `j` hands out the record stored at `i`. -/
def Returns (i j : ℕ) (record : TraceEventEnvelope) : Prop :=
  Holds tables config ops i j record ∧ ∃ received update d, recordAt ops j=some received ∧
    received.tid=record.tid ∧ updateAt tables config ops j=some update ∧
    update.deferredExit=some d ∧ d.syscallView=record.syscallView

/-- Stored records are delivered at most once, to their own enter or at the end of their thread,
and are lost for the listed reasons only. -/
structure Delivered : Prop where
  /-- The map holds the stored records. -/
  held : ∀ i j record, Holds tables config ops i j record →
    (contentsAt tables config ops j).exits record.tid=some ⟨record.syscallView,record.payload⟩
  /-- Whatever the map holds was stored by some call. -/
  origin : ∀ j tid, (contentsAt tables config ops j).exits tid≠none →
    ∃ i record, Holds tables config ops i j record ∧ record.tid=tid
  /-- Whatever an update hands out was stored by some call. -/
  returned : ∀ j update, updateAt tables config ops j=some update → update.deferredExit≠none →
    ∃ i record, Returns tables config ops i j record
  /-- No record is handed out twice. -/
  once : ∀ i j k record other, Returns tables config ops i j record →
    Returns tables config ops i k other → j=k
  /-- A record is handed out to its own enter or at the end of its thread. -/
  own : ∀ i j record received, Returns tables config ops i j record →
    recordAt ops j=some received → received.tid=record.tid ∧
      (endsThread received=true ∨ isGenericEnterRecord received=true ∧
        received.sysID=record.sysID ∧ received.enterTime=record.enterTime)
  /-- A record that leaves the map is handed out or lost. -/
  left : ∀ i j record, Holds tables config ops i j record →
    ¬Holds tables config ops i (j+1) record → Returns tables config ops i j record ∨
      ∃ received update, recordAt ops j=some received ∧
        updateAt tables config ops j=some update ∧
        LostTo (policy tables (newTraceStateForSession config)) update.deferred record.tid
          record.syscallView received
  /-- The end of a thread hands its record out. -/
  ended : ∀ i j record received, Holds tables config ops i j record →
    recordAt ops j=some received → endsThread received=true → received.tid=record.tid →
    Returns tables config ops i j record

end Runs

section Positions

variable {tables : SyscallTables} {config : SessionConfig} {ops : List Operation}
  {i j k : ℕ} {record other : TraceEventEnvelope}

/-- What a call that handles no record leaves stored. -/
theorem exits_applyContents (sys : System) (a : Contents) {op : Operation}
    (htaint : op.isTaint=false) (hop : ∀ record, op≠.handle record) :
    (applyContents tables sys a op).exits=a.exits := by
  cases op with
  | handle record => exact absurd rfl (hop record)
  | taint order => cases htaint
  | rememberPendingExecArgs tid argLine =>
    unfold applyContents
    split_ifs <;> rfl
  | rememberSuspendedSyscall tid name =>
    unfold applyContents
    split_ifs <;> rfl
  | _ => rfl

/-- A position with no record stores nothing and drops nothing. -/
theorem exits_of_recordAt_none (hops : ∀ op∈ops, op.isTaint=false) (h : recordAt ops j=none) :
    (contentsAt tables config ops (j+1)).exits=(contentsAt tables config ops j).exits := by
  cases hop : ops[j]? with
  | none =>
    unfold contentsAt
    rw [systemAt_succ_of_none hop]
  | some op =>
    rw [contentsAt_succ tables config hops j hop]
    apply exits_applyContents _ _ (hops op (List.mem_of_getElem? hop))
    rintro record rfl
    rw [recordAt_of_getElem hop] at h
    cases h

theorem holds_succ : Holds tables config ops i (j+1) record ↔
    (i=j ∧ Stores tables config ops j record) ∨ Holds tables config ops i j record ∧
      (contentsAt tables config ops (j+1)).exits record.tid≠none ∧
        ∀ other, Stores tables config ops j other → other.tid≠record.tid := by
  unfold Holds
  constructor
  · rintro ⟨hstores,hij,hbetween⟩
    by_cases heq : i=j
    · exact .inl ⟨heq,heq▸hstores⟩
    · exact .inr ⟨⟨hstores,by omega,fun m him hmj => hbetween m him (by omega)⟩,
        hbetween j (by omega) (by omega)⟩
  · rintro (⟨rfl,hstores⟩ | ⟨⟨hstores,hij,hbetween⟩,hlast⟩)
    · exact ⟨hstores,by omega,fun m him hmj => by omega⟩
    · refine ⟨hstores,by omega,fun m him hmj => ?_⟩
      by_cases heq : m=j
      · rw [heq]
        exact hlast
      · exact hbetween m him (by omega)

/-- The record stored at a position is the one handled there. -/
theorem Stores.unique (h : Stores tables config ops i record)
    (h' : Stores tables config ops i other) : record=other :=
  Option.some.inj (h.1.symm.trans h'.1)

section Lossless

variable (hops : ∀ op∈ops, op.isTaint=false) (hdefer : config.deferUnmatchedExits=true)
include hops hdefer

/-- What the record handled at a position does to the stored ones, read off its update. -/
theorem fates_contentsAt (hrecord : recordAt ops j=some record) {update : TraceStateUpdate}
    (hupdate : updateAt tables config ops j=some update) :
    ∃ out, out.1=contentsAt tables config ops (j+1) ∧ out.2.deferred=update.deferred ∧
      out.2.deferredExit=update.deferredExit.map (fun d => ⟨d.syscallView,d.pendingEnter.map
        (snapshotAt (systemAt tables config ops (j+1)).st.correlation)⟩) ∧
      Fates (policy tables (newTraceStateForSession config)) (contentsAt tables config ops j)
        record out := by
  obtain ⟨hcontents,update',hupdate',houtcome⟩ := handle_contentsAt tables config hops j hrecord
  obtain rfl := Option.some.inj (hupdate.symm.trans hupdate')
  refine ⟨_,hcontents.symm,?_,?_,handle_fates rfl hdefer (keyed_contentsAt tables config hops j)⟩
  · rw [←houtcome]
    rfl
  · rw [←houtcome]
    rfl

omit hops hdefer in
theorem stores_iff (hrecord : recordAt ops j=some record) {update : TraceStateUpdate}
    (hupdate : updateAt tables config ops j=some update) :
    Stores tables config ops j record ↔ update.deferred=true := by
  constructor
  · rintro ⟨-,update',hupdate',hdeferred⟩
    rw [Option.some.inj (hupdate.symm.trans hupdate')]
    exact hdeferred
  · exact fun hdeferred => ⟨hrecord,update,hupdate,hdeferred⟩

/-- A call that stores a record puts it under its thread. -/
theorem exits_of_stores (h : Stores tables config ops j record) :
    (contentsAt tables config ops (j+1)).exits=Function.update
      (contentsAt tables config ops j).exits record.tid
        (some ⟨record.syscallView,record.payload⟩) := by
  obtain ⟨hrecord,update,hupdate,hdeferred⟩ := h
  obtain ⟨out,hout,hdefers,-,hfates⟩ := fates_contentsAt hops hdefer hrecord hupdate
  rw [←hout]
  exact (hfates.stored (hdefers.trans hdeferred)).2.2

/-- A call that stores no record leaves or drops the stored ones. -/
theorem exits_of_not_stores (h : ∀ record, ¬Stores tables config ops j record) (tid : UInt32) :
    (contentsAt tables config ops (j+1)).exits tid=(contentsAt tables config ops j).exits tid ∨
      (contentsAt tables config ops (j+1)).exits tid=none := by
  cases hrecord : recordAt ops j with
  | none => exact .inl (congrFun (exits_of_recordAt_none hops hrecord) tid)
  | some record =>
    have hupdate := updateAt_eq tables config hrecord
    obtain ⟨out,hout,hdefers,-,hfates⟩ := fates_contentsAt hops hdefer hrecord hupdate
    have hdeferred : out.2.deferred=false := by
      rw [hdefers]
      exact Bool.eq_false_iff.mpr fun htrue => h record ((stores_iff hrecord hupdate).mpr htrue)
    rw [←hout]
    exact hfates.kept hdeferred tid

/-- The map holds exactly what was stored and has not left. -/
theorem exits_of_holds (h : Holds tables config ops i j record) :
    (contentsAt tables config ops j).exits record.tid=
      some ⟨record.syscallView,record.payload⟩ := by
  induction j with
  | zero => exact absurd h.2.1 (Nat.not_lt_zero i)
  | succ j ih =>
    rcases holds_succ.mp h with ⟨-,hstores⟩ | ⟨hheld,hpresent,hothers⟩
    · rw [exits_of_stores hops hdefer hstores,Function.update_self]
    · by_cases hstores : ∃ other, Stores tables config ops j other
      · obtain ⟨other,hother⟩ := hstores
        rw [exits_of_stores hops hdefer hother,
          Function.update_of_ne (fun heq => hothers other hother heq.symm)]
        exact ih hheld
      · rcases exits_of_not_stores hops hdefer (not_exists.mp hstores) record.tid with hsame | hnone
        · rw [hsame]
          exact ih hheld
        · exact absurd hnone hpresent

/-- Whatever the map holds was stored by some call. -/
theorem holds_of_exits {tid : UInt32} (h : (contentsAt tables config ops j).exits tid≠none) :
    ∃ i record, Holds tables config ops i j record ∧ record.tid=tid := by
  induction j with
  | zero => exact absurd rfl h
  | succ j ih =>
    by_cases hstores : ∃ other, Stores tables config ops j other ∧ other.tid=tid
    · obtain ⟨other,hother,htid⟩ := hstores
      exact ⟨j,other,holds_succ.mpr (.inl ⟨rfl,hother⟩),htid⟩
    · have hbefore : (contentsAt tables config ops j).exits tid≠none := by
        by_cases hany : ∃ other, Stores tables config ops j other
        · obtain ⟨other,hother⟩ := hany
          rw [exits_of_stores hops hdefer hother,
            Function.update_of_ne (fun heq => hstores ⟨other,hother,heq.symm⟩)] at h
          exact h
        · rcases exits_of_not_stores hops hdefer (not_exists.mp hany) tid with hsame | hnone
          · rw [←hsame]
            exact h
          · exact absurd hnone h
      obtain ⟨i,record,hheld,rfl⟩ := ih hbefore
      exact ⟨i,record,holds_succ.mpr (.inr ⟨hheld,h,
        fun other hother heq => hstores ⟨other,hother,heq⟩⟩),rfl⟩

/-- What an update hands out was stored under its thread, and is not stored any more. -/
theorem returned_of_update (hrecord : recordAt ops j=some record) {update : TraceStateUpdate}
    (hupdate : updateAt tables config ops j=some update) {d : TraceDeferredExit}
    (hd : update.deferredExit=some d) :
    (contentsAt tables config ops (j+1)).exits record.tid=none ∧
      (∃ e, (contentsAt tables config ops j).exits record.tid=some e ∧ e.view=d.syscallView) ∧
      (endsThread record=true ∨ isGenericEnterRecord record=true ∧
        d.syscallView.sysID=record.sysID ∧ d.syscallView.enterTime=record.enterTime) := by
  obtain ⟨out,hout,-,hexit,hfates⟩ := fates_contentsAt hops hdefer hrecord hupdate
  rw [hd,Option.map_some] at hexit
  rw [←hout]
  exact hfates.returned _ hexit

/-- A stored record is handed out when an update of its thread hands one out. -/
theorem returns_of_update (hheld : Holds tables config ops i j record)
    (hrecord : recordAt ops j=some other) (htid : other.tid=record.tid)
    {update : TraceStateUpdate} (hupdate : updateAt tables config ops j=some update)
    {d : TraceDeferredExit} (hd : update.deferredExit=some d) :
    Returns tables config ops i j record := by
  obtain ⟨-,⟨e,he,hview⟩,-⟩ := returned_of_update hops hdefer hrecord hupdate hd
  rw [htid,exits_of_holds hops hdefer hheld] at he
  obtain rfl := Option.some.inj he
  exact ⟨hheld,other,update,d,hrecord,htid,hupdate,hd,hview.symm⟩

/-- A record handed out has left the map. -/
theorem Returns.not_holds (h : Returns tables config ops i j record) (hjk : j < k) :
    ¬Holds tables config ops i k record := by
  obtain ⟨hheld,received,update,d,hrecord,htid,hupdate,hd,-⟩ := h
  intro hlater
  have hnone := (returned_of_update hops hdefer hrecord hupdate hd).1
  rw [htid] at hnone
  exact (hlater.2.2 j hheld.2.1 hjk).1 hnone

/-- A stored record that leaves the map is handed out or lost. -/
theorem left_of_not_holds (hheld : Holds tables config ops i j record)
    (hleft : ¬Holds tables config ops i (j+1) record) :
    Returns tables config ops i j record ∨
      ∃ received update, recordAt ops j=some received ∧
        updateAt tables config ops j=some update ∧
        LostTo (policy tables (newTraceStateForSession config)) update.deferred record.tid
          record.syscallView received := by
  have hstored := exits_of_holds hops hdefer hheld
  cases hrecord : recordAt ops j with
  | none =>
    refine absurd (holds_succ.mpr (.inr ⟨hheld,?_,?_⟩)) hleft
    · rw [exits_of_recordAt_none hops hrecord,hstored]
      exact Option.some_ne_none _
    · intro other hother
      cases hrecord.symm.trans hother.1
  | some received =>
    have hupdate := updateAt_eq tables config hrecord
    obtain ⟨out,hout,hdefers,hexit,hfates⟩ := fates_contentsAt hops hdefer hrecord hupdate
    have hgone : out.2.deferred=true ∧ received.tid=record.tid ∨ out.1.exits record.tid=none := by
      by_contra hstays
      rw [not_or,hout] at hstays
      refine hleft (holds_succ.mpr (.inr ⟨hheld,hstays.2,fun other hother heq => ?_⟩))
      obtain rfl := Option.some.inj (hrecord.symm.trans hother.1)
      exact hstays.1 ⟨hdefers.trans ((stores_iff hrecord hupdate).mp hother),heq⟩
    rcases hfates.gone record.tid _ hstored hgone with ⟨htid,d,hd⟩ | hlost
    · rw [hexit] at hd
      obtain ⟨d',hd',-⟩ := Option.map_eq_some_iff.mp hd
      exact .inl (returns_of_update hops hdefer hheld hrecord htid hupdate hd')
    · rw [hdefers] at hlost
      exact .inr ⟨received,_,rfl,hupdate,hlost⟩

end Lossless

end Positions

/-- An enter record of a sample exec. -/
def execRecord (eventFlags : UInt32) : TraceEventEnvelope where
  eventType := .enter
  eventFlags := eventFlags
  pid := 7
  tid := 7
  sysID := 59
  enterTime := 100

/-- Names of a sample table without routes of their own. -/
def execTables : SyscallTables := ⟨fun _ => "execve",fun _ => false,fun _ => false⟩

end StraceGo.EventStateDeferredExits

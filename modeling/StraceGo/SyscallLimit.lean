import StraceGo.EventStateTimeline

/-!
# The limit on printed syscalls

A session with a limit reads one record at a time and stops after the record
that completes the last syscall allowed. Once the traced command is found to
have finished, the records that are left are drained, and there nobody asks
whether the limit is reached. The limit is kept exactly when every record of
the drain still finds some of it left.
-/

namespace StraceGo.SyscallLimit

open EventEnvelope EventState EventStateRuns EventStateTimeline EventTaskLifecycle

section Limit

/-- Countdown of the syscalls that may still be printed. -/
structure TraceSyscallLimit where
  /-- Syscalls left. -/
  remaining : ℕ
  /-- A limit was given. -/
  enabled : Bool
  deriving DecidableEq

/-- Countdown at the start of a session, zero for no limit. -/
def newTraceSyscallLimit (limit : ℕ) : TraceSyscallLimit := ⟨limit,decide (0 < limit)⟩

namespace TraceSyscallLimit

variable (l : TraceSyscallLimit)

/-- Count a completed syscall that is printed. -/
def observe (prints : Bool) : TraceSyscallLimit :=
  if l.enabled=false ∨ l.remaining=0 ∨ prints=false then l
  else {l with remaining := l.remaining-1}

/-- Whether the limit is reached. -/
def reached : Bool := l.enabled && l.remaining==0

end TraceSyscallLimit

end Limit

section Records

/-- Processes a session looks at. -/
structure TraceScope where
  /-- Process started by the session. -/
  targetPID : ℤ
  /-- Attached processes. -/
  attachPIDs : List ℤ := []
  /-- Children are followed. -/
  followFork : Bool := false

namespace TraceScope

variable (scope : TraceScope)

/-- Whether a number is that of a traced process. -/
def directlyMatches (pid : ℤ) : Bool :=
  if scope.attachPIDs=[] then decide (pid=scope.targetPID) else scope.attachPIDs.contains pid

/-- Whether a record's process is traced. -/
def allowsEvent (pid tid : UInt32) : Bool :=
  if pid=0 ∧ tid=0 then false
  else if pid≠0 ∧ scope.directlyMatches pid.toNat ∨ tid≠0 ∧ scope.directlyMatches tid.toNat then
    true
  else scope.followFork

end TraceScope

/-- What a session is made of besides its state. -/
structure Components where
  /-- Generated tables. -/
  tables : SyscallTables
  /-- Configuration of the state. -/
  config : SessionConfig := {}
  /-- Traced processes. -/
  scope : TraceScope
  /-- Whether a syscall completed after some records passes the filters and the status policy. -/
  prints : List TraceEventEnvelope → SyscallEventView → Bool
  /-- Calls of the outputs on the state while a record is dispatched. -/
  outputs : List TraceEventEnvelope → TraceState → TraceState := fun _ st => st
  /-- Tracing stops at an exec. -/
  detachOnExecve : Bool := false
  /-- Events are written as JSON. -/
  isJSON : Bool := false

/-- The event state with the records routed to it. -/
structure Tracing where
  /-- The event state. -/
  st : TraceState
  /-- Records routed so far. -/
  routed : List TraceEventEnvelope := []

/-- What a read of the ring buffer gives. -/
inductive ReadOutcome where
  | record (loss : Option TraceState.TaintOrder) (envelope : TraceEventEnvelope)
  | invalid (loss : Option TraceState.TaintOrder)
  | unsupportedABI
  | noEvent
  | closed
  | failed

variable (session : Components)

namespace Tracing

/-- Losses found with a record taint the state first. -/
def observeLoss (t : Tracing) : Option TraceState.TaintOrder → Tracing
  | none => t
  | some order => {t with st := t.st.taintHistory session.tables order}

/-- Route a record; the syscalls it completes are told with whether they are printed. -/
def handle (t : Tracing) (envelope : TraceEventEnvelope) :
    Tracing×List (SyscallEventView×Bool) :=
  if session.scope.allowsEvent envelope.pid envelope.tid=false then (t,[])
  else
    let (st,update) := t.st.handleEnvelope session.tables envelope
    let routed := t.routed ++ [envelope]
    ({st := (session.outputs routed st).releaseTraceStateUpdate update, routed := routed},
      (dispatchedExits update).map fun view => (view,session.prints routed view))

/-- Handle what a read gives. -/
def read (t : Tracing) : ReadOutcome → Tracing×List (SyscallEventView×Bool)
  | .record loss envelope => (t.observeLoss session loss).handle session envelope
  | .invalid loss => (t.observeLoss session loss,[])
  | _ => (t,[])

/-- Syscalls printed for what some reads give. -/
def printed (t : Tracing) : List ReadOutcome → ℕ
  | [] => 0
  | outcome::rest =>
    (t.read session outcome).2.countP (·.2)+printed (t.read session outcome).1 rest

end Tracing

/-- The state of a session. -/
structure SessionState where
  /-- Event state. -/
  tracing : Tracing
  /-- Countdown. -/
  limit : TraceSyscallLimit
  /-- Printed syscalls, with the number of records routed when each was completed. -/
  printed : List (ℕ×SyscallEventView) := []

namespace SessionState

/-- A completed syscall is counted and, if it passes, printed. -/
def handleExit (s : SessionState) (completed : SyscallEventView×Bool) : SessionState :=
  { s with
    limit := s.limit.observe completed.2
    printed := if completed.2 then s.printed ++ [(s.tracing.routed.length,completed.1)]
      else s.printed }

/-- Handle what a read gives. -/
def read (s : SessionState) (outcome : ReadOutcome) : SessionState :=
  (s.tracing.read session outcome).2.foldl handleExit
    {s with tracing := (s.tracing.read session outcome).1}

end SessionState

/-- How a read of the reader ends. -/
inductive ReadStatus where
  | handled
  | noEvent
  | closed
  | failed
  deriving DecidableEq

/-- Status of what a read gives; a record of a foreign ABI stops the reader. -/
def ReadOutcome.status : ReadOutcome → ReadStatus
  | .record _ _ => .handled
  | .invalid _ => .noEvent
  | .unsupportedABI => .failed
  | .noEvent => .noEvent
  | .closed => .closed
  | .failed => .failed

/-- Read a batch of records; the reads end where the buffer is empty. -/
def readTraceEventBatch (limit : ℕ) : List ReadOutcome → SessionState → SessionState×ReadStatus
  | [],s => (s,.noEvent)
  | outcome::rest,s =>
    let s := s.read session outcome
    if outcome.status=.handled ∧ 1 < limit ∧ rest≠[] then readTraceEventBatch (limit-1) rest s
    else (s,outcome.status)

/-- Number of records in a batch. -/
def eventBatchLimit (s : SessionState) : ℕ :=
  if s.limit.enabled || session.detachOnExecve then 1 else 64

end Records

section Run

/-- Time, in milliseconds, that records of an exit are waited for. -/
def traceExitLifecycleDrainGrace : ℕ := 200

/-- What the run loop knows about the traced processes. -/
structure TraceRunState where
  /-- The command has been waited for. -/
  commandExited : Bool
  /-- The command's tasks have ended. -/
  commandLifecycleDone : Bool
  /-- Its end was seen in the records. -/
  commandLifecycleObserved : Bool := false
  /-- Its end was not seen in time. -/
  commandLifecycleFallback : Bool := false
  /-- The command is waited for. -/
  waiting : Bool
  /-- Process of the command, zero for none. -/
  targetPID : UInt32
  /-- Processes were attached to. -/
  attaches : Bool
  /-- The attached processes have ended. -/
  attachExited : Bool
  /-- When the wait for records ends. -/
  lifecycleFallbackAt : Option ℕ := none

/-- What a round of the run loop asks the system. -/
structure Observation where
  /-- The wait for the command has returned. -/
  commandDone : Bool := false
  /-- Whether the kernel saw the command exit. -/
  targetExited : Except String Bool := .ok false
  /-- Attached processes the kernel saw exit. -/
  attachExited : Except String (Finset UInt32) := .ok ∅
  /-- Time. -/
  now : ℕ

/-- Run state at the start. -/
def newTraceRunState (hasCommand : Bool) (targetPID : UInt32) (attaches : Bool) :
    TraceRunState where
  commandExited := !hasCommand
  commandLifecycleDone := !hasCommand || targetPID==0
  waiting := hasCommand
  targetPID := targetPID
  attaches := attaches
  attachExited := !attaches

namespace TraceRunState

variable (run : TraceRunState) (st : TraceState) (seen : Observation)

/-- Wait for the tasks of a command whose end was seen. -/
def collectLifecycleQuiescence : TraceRunState :=
  if st.targetLifecycleQuiescent run.targetPID then {run with lifecycleFallbackAt := none}
  else
    match run.lifecycleFallbackAt with
    | none => {run with lifecycleFallbackAt := some (seen.now+traceExitLifecycleDrainGrace)}
    | some limit =>
      if seen.now < limit then run else {run with commandLifecycleFallback := true}

/-- Look for the end of the command. -/
def collectCommandLifecycle : Except String TraceRunState :=
  if run.commandExited=false ∨ run.targetPID=0 then .ok run
  else if run.commandLifecycleFallback then .ok run
  else if run.commandLifecycleObserved then .ok (run.collectLifecycleQuiescence st seen)
  else if run.commandLifecycleDone then .ok run
  else if run.targetPID∈st.lifecycle.lifecycleExited then
    .ok (collectLifecycleQuiescence
      { run with
        commandLifecycleDone := true
        commandLifecycleObserved := true
        commandLifecycleFallback := false
        lifecycleFallbackAt := none } st seen)
  else
    match seen.targetExited with
    | .error message => .error ("refresh command lifecycle: " ++ message)
    | .ok false => .ok run
    | .ok true =>
      match run.lifecycleFallbackAt with
      | none => .ok {run with lifecycleFallbackAt := some (seen.now+traceExitLifecycleDrainGrace)}
      | some limit =>
        if seen.now < limit then .ok run
        else .ok {run with commandLifecycleDone := true, commandLifecycleFallback := true}

/-- Look for the end of the command and of the attached processes. -/
def collect : Except String (TraceRunState×TraceState) :=
  let run := if run.waiting && seen.commandDone then
      {run with commandExited := true, waiting := false} else run
  match run.collectCommandLifecycle st seen with
  | .error message => .error message
  | .ok run =>
    if run.attaches=false then .ok ({run with attachExited := true},st)
    else if run.attachExited then .ok (run,st)
    else
      match if st.attach.targets=∅ then .ok ∅ else seen.attachExited with
      | .error message => .error ("refresh attach targets: " ++ message)
      | .ok exited =>
        let st := {st with attach := {targets := st.attach.targets\exited}}
        .ok (if st.attach.targets=∅ then {run with attachExited := true} else run,st)

/-- Whether everything traced has ended. -/
def done : Bool :=
  if run.commandExited=false ∨ run.commandLifecycleDone=false ∨ run.attachExited=false then false
  else if run.commandLifecycleFallback then true
  else if run.commandLifecycleObserved=false then true
  else st.targetLifecycleQuiescent run.targetPID

/-- Whether records are waited for once more before the drain. -/
def exitDrainGrace (isJSON : Bool) : Bool :=
  if run.commandLifecycleFallback then true
  else if run.commandLifecycleObserved then false
  else isJSON

end TraceRunState

/-- A round of the run loop, as the system answers it. -/
structure Round where
  /-- What is asked first. -/
  seen : Observation
  /-- Reads of the round's batch. -/
  reads : List ReadOutcome := []
  /-- An exec was reached that ends tracing. -/
  detached : Bool := false

/-- How the rounds end. -/
inductive PollResult where
  | polling (s : SessionState)
  | stopped (s : SessionState)
  | done (s : SessionState) (grace : Bool)

/-- Reads after everything traced has ended. -/
structure Remainder where
  /-- Reads while records are waited for. -/
  waited : List ReadOutcome := []
  /-- Reads of what the buffer still holds. -/
  flushed : List ReadOutcome := []

/-- The reads of a drain: an error ends the waiting and the drain, a wait without a record ends
the drain. -/
def Remainder.reads (rest : Remainder) (grace : Bool) : List ReadOutcome :=
  let flushed := rest.flushed.takeWhile fun outcome => match outcome with
    | .record _ _ => true
    | .invalid _ => true
    | _ => false
  let waited := rest.waited.takeWhile fun outcome =>
    decide (outcome.status=.handled ∨ outcome.status=.noEvent)
  if grace=false then flushed
  else if waited.length < rest.waited.length then waited
  else waited ++ flushed

variable (session : Components)

/-- The rounds of the run loop. -/
def poll : List Round → TraceRunState → SessionState → PollResult
  | [],_,s => .polling s
  | round::rest,run,s =>
    match run.collect s.tracing.st round.seen with
    | .error _ => .stopped s
    | .ok (run,st) =>
      let s := {s with tracing := {s.tracing with st := st}}
      if run.done st then .done s (run.exitDrainGrace session.isJSON)
      else
        let (s,status) := readTraceEventBatch session (eventBatchLimit session s) round.reads s
        if status=.failed ∨ status=.closed then .stopped s
        else if round.detached then .stopped s
        else if s.limit.reached then .stopped s
        else poll rest run s

/-- Handle the records that are left. -/
def drainAfterDone (reads : List ReadOutcome) (s : SessionState) : SessionState :=
  reads.foldl (SessionState.read session) s

/-- A run of a session. -/
def run (rounds : List Round) (rest : Remainder) (runState : TraceRunState) (s : SessionState) :
    SessionState :=
  match poll session rounds runState s with
  | .polling s => s
  | .stopped s => s
  | .done s grace => drainAfterDone session (rest.reads grace) s

/-- State of a session with a limit at its start. -/
def newSession (limit : ℕ) : SessionState where
  tracing := {st := newTraceStateForSession session.config}
  limit := newTraceSyscallLimit limit

end Run

section Counting

variable (session : Components)

/-- A read gives a record of a traced process. -/
def InScope : ReadOutcome → Prop
  | .record _ envelope => session.scope.allowsEvent envelope.pid envelope.tid=true
  | _ => False

/-- A record of a traced process is routed and completes at most one syscall; any other read
routes and completes nothing. -/
theorem read_cases (t : Tracing) (outcome : ReadOutcome) :
    InScope session outcome ∧
      (t.read session outcome).1.routed.length=t.routed.length+1 ∧
      (t.read session outcome).2.length ≤ 1 ∨
    ¬InScope session outcome ∧ (t.read session outcome).1.routed=t.routed ∧
      (t.read session outcome).2=[] := by
  have hloss : ∀ loss, (t.observeLoss session loss).routed=t.routed := by
    intro loss
    cases loss <;> rfl
  cases outcome with
  | record loss envelope =>
    unfold Tracing.read Tracing.handle InScope
    dsimp only
    cases hscope : session.scope.allowsEvent envelope.pid envelope.tid with
    | false =>
      rw [if_pos rfl]
      exact Or.inr ⟨Bool.false_ne_true,hloss loss,rfl⟩
    | true =>
      rw [if_neg (by decide)]
      refine Or.inl ⟨rfl,?_,?_⟩
      · dsimp only
        rw [List.length_append,hloss]
        rfl
      · dsimp only
        rw [List.length_map]
        exact length_dispatchedExits_le _
  | invalid loss => exact Or.inr ⟨id,hloss loss,rfl⟩
  | unsupportedABI => exact Or.inr ⟨id,rfl,rfl⟩
  | noEvent => exact Or.inr ⟨id,rfl,rfl⟩
  | closed => exact Or.inr ⟨id,rfl,rfl⟩
  | failed => exact Or.inr ⟨id,rfl,rfl⟩

/-- A read prints nothing, or prints one syscall for the record it routes. -/
theorem read_prints (s : SessionState) (outcome : ReadOutcome) :
    (s.tracing.read session outcome).2.countP (·.2)=0 ∧
      (s.read session outcome).tracing=(s.tracing.read session outcome).1 ∧
      (s.read session outcome).printed=s.printed ∧ (s.read session outcome).limit=s.limit ∨
    InScope session outcome ∧ (s.tracing.read session outcome).2.countP (·.2)=1 ∧
      (s.read session outcome).tracing=(s.tracing.read session outcome).1 ∧
      (∃ view, (s.read session outcome).printed=
        s.printed ++ [((s.read session outcome).tracing.routed.length,view)]) ∧
      (s.read session outcome).limit=s.limit.observe true := by
  unfold SessionState.read
  rcases read_cases session s.tracing outcome with
    ⟨hscope,-,hone⟩ | ⟨-,-,hnone⟩
  · match hcompleted : (s.tracing.read session outcome).2 with
    | [] => exact Or.inl ⟨rfl,rfl,rfl,rfl⟩
    | [(view,true)] => exact Or.inr ⟨hscope,rfl,rfl,⟨view,rfl⟩,rfl⟩
    | [(view,false)] =>
      refine Or.inl ⟨rfl,rfl,rfl,?_⟩
      change s.limit.observe false=s.limit
      unfold TraceSyscallLimit.observe
      rw [if_pos (Or.inr (Or.inr rfl))]
    | first::second::rest =>
      rw [hcompleted] at hone
      simp only [List.length_cons] at hone
      omega
  · rw [hnone]
    exact Or.inl ⟨rfl,rfl,rfl,rfl⟩

/-- Printed and remaining syscalls make up the limit. -/
structure Counts (limit : ℕ) (s : SessionState) : Prop where
  /-- There is a limit. -/
  enabled : s.limit.enabled=true
  /-- What is printed is counted. -/
  total : s.printed.length+s.limit.remaining=limit
  /-- What is printed was completed by a routed record. -/
  routed : ∀ entry∈s.printed, entry.1 ≤ s.tracing.routed.length

/-- The limit is kept: no more syscalls are printed, and no record is routed after the last. -/
structure LimitKept (limit : ℕ) (s : SessionState) : Prop where
  /-- At most the limit is printed. -/
  bounded : s.printed.length ≤ limit
  /-- The session stops at the last one. -/
  stops : s.printed.length=limit → s.printed.getLast?.map Prod.fst=some s.tracing.routed.length

/-- Routed records only grow. -/
theorem routed_read_le (t : Tracing) (outcome : ReadOutcome) :
    t.routed.length ≤ (t.read session outcome).1.routed.length := by
  rcases read_cases session t outcome with ⟨-,hrouted,-⟩ | ⟨-,hrouted,-⟩
  · omega
  · rw [hrouted]

/-- A read with some of the limit left keeps the count, and stops at the last syscall. -/
theorem Counts.read {limit : ℕ} {s : SessionState} (h : Counts limit s)
    (hleft : 0 < s.limit.remaining) (outcome : ReadOutcome) :
    Counts limit (s.read session outcome) ∧ LimitKept limit (s.read session outcome) := by
  have htotal := h.total
  have hgrows := routed_read_le session s.tracing outcome
  rcases read_prints session s outcome with
    ⟨-,htracing,hprinted,hlimit⟩ | ⟨-,-,htracing,⟨view,hprinted⟩,hlimit⟩
  · have hcounts : Counts limit (s.read session outcome) := by
      refine ⟨by rw [hlimit]; exact h.enabled,by rw [hprinted,hlimit]; exact htotal,?_⟩
      intro entry hentry
      rw [hprinted] at hentry
      rw [htracing]
      exact Nat.le_trans (h.routed entry hentry) hgrows
    refine ⟨hcounts,?_,?_⟩
    · rw [hprinted]
      omega
    · intro hall
      rw [hprinted] at hall
      omega
  · have hobserved : s.limit.observe true={s.limit with remaining := s.limit.remaining-1} := by
      unfold TraceSyscallLimit.observe
      rw [if_neg]
      simp [h.enabled]
      omega
    have hlength : (s.read session outcome).printed.length=s.printed.length+1 := by
      rw [hprinted,List.length_append]
      rfl
    refine ⟨⟨?_,?_,?_⟩,?_,?_⟩
    · rw [hlimit,hobserved]
      exact h.enabled
    · rw [hlength,hlimit,hobserved]
      dsimp only
      omega
    · intro entry hentry
      rw [hprinted] at hentry
      rcases List.mem_append.mp hentry with hentry | hentry
      · rw [htracing]
        exact Nat.le_trans (h.routed entry hentry) hgrows
      · rw [List.mem_singleton.mp hentry]
    · omega
    · intro _
      rw [hprinted,List.getLast?_append]
      rfl

end Counting

section Rounds

variable (session : Components)

/-- A result of the rounds keeps the limit, and some of it is left for a drain. -/
def PollResult.Keeps (limit : ℕ) : PollResult → Prop
  | .polling s => LimitKept limit s
  | .stopped s => LimitKept limit s
  | .done s _ => Counts limit s ∧ 0 < s.limit.remaining

/-- The limit is kept while some of it is left. -/
theorem Counts.kept {limit : ℕ} {s : SessionState} (h : Counts limit s)
    (hleft : 0 < s.limit.remaining) : LimitKept limit s := by
  have htotal := h.total
  refine ⟨by omega,?_⟩
  intro hall
  omega

/-- A session with a limit reads one record in a batch. -/
theorem eventBatchLimit_of_enabled (s : SessionState) (henabled : s.limit.enabled=true) :
    eventBatchLimit session s=1 := by
  unfold eventBatchLimit
  rw [henabled,Bool.true_or,if_pos rfl]

/-- A batch of one record is one read, or none. -/
theorem readTraceEventBatch_one (reads : List ReadOutcome) (s : SessionState) :
    (readTraceEventBatch session 1 reads s).1=s ∨
      ∃ outcome, (readTraceEventBatch session 1 reads s).1=s.read session outcome := by
  cases reads with
  | nil => exact Or.inl rfl
  | cons outcome rest =>
    refine Or.inr ⟨outcome,?_⟩
    unfold readTraceEventBatch
    rw [if_neg (fun h => Nat.lt_irrefl 1 h.2.1)]

/-- A batch read with some of the limit left keeps the count, and stops at the last syscall. -/
theorem Counts.batch {limit : ℕ} {s : SessionState} (h : Counts limit s)
    (hleft : 0 < s.limit.remaining) (reads : List ReadOutcome) :
    Counts limit (readTraceEventBatch session (eventBatchLimit session s) reads s).1 ∧
      LimitKept limit (readTraceEventBatch session (eventBatchLimit session s) reads s).1 := by
  rw [eventBatchLimit_of_enabled session s h.enabled]
  rcases readTraceEventBatch_one session reads s with hnone | ⟨outcome,hread⟩
  · rw [hnone]
    exact ⟨h,h.kept hleft⟩
  · rw [hread]
    exact h.read session hleft outcome

/-- The rounds keep the limit, and leave some of it for a drain. -/
theorem poll_keeps {limit : ℕ} (rounds : List Round) (runState : TraceRunState)
    (s : SessionState) (h : Counts limit s) (hleft : 0 < s.limit.remaining) :
    (poll session rounds runState s).Keeps limit := by
  induction rounds generalizing runState s with
  | nil => exact h.kept hleft
  | cons round rest ih =>
    unfold poll
    cases runState.collect s.tracing.st round.seen with
    | error message => exact h.kept hleft
    | ok collected =>
      obtain ⟨collected,st⟩ := collected
      dsimp only
      have hcounts : Counts limit {s with tracing := {s.tracing with st := st}} :=
        ⟨h.enabled,h.total,h.routed⟩
      by_cases hdone : collected.done st=true
      · rw [if_pos hdone]
        exact ⟨hcounts,hleft⟩
      · rw [if_neg hdone]
        have hbatch := hcounts.batch session hleft round.reads
        generalize readTraceEventBatch session _ round.reads _ = batch at hbatch ⊢
        obtain ⟨after,status⟩ := batch
        obtain ⟨hafter,hkept⟩ := hbatch
        dsimp only at hafter hkept ⊢
        by_cases hstatus : status=.failed ∨ status=.closed
        · rw [if_pos hstatus]
          exact hkept
        · rw [if_neg hstatus]
          by_cases hdetached : round.detached=true
          · rw [if_pos hdetached]
            exact hkept
          · rw [if_neg hdetached]
            by_cases hreached : after.limit.reached=true
            · rw [if_pos hreached]
              exact hkept
            · rw [if_neg hreached]
              have hsome : 0 < after.limit.remaining := by
                have hnot := hreached
                unfold TraceSyscallLimit.reached at hnot
                rw [hafter.enabled,Bool.true_and,beq_iff_eq] at hnot
                omega
              exact ih collected after hafter hsome

end Rounds

section Drain

variable (session : Components)

/-- The records drained fit what is left of the limit: each of a traced process finds fewer
syscalls printed by those before it. -/
def Fits (t : Tracing) (remaining : ℕ) (reads : List ReadOutcome) : Prop :=
  ∀ before outcome after, reads=before ++ outcome::after → InScope session outcome →
    t.printed session before < remaining

variable {session} in
/-- What fits leaves some of the limit for its first record, and the others fit the rest. -/
theorem Fits.cons {t : Tracing} {remaining : ℕ} {outcome : ReadOutcome}
    {rest : List ReadOutcome} (h : Fits session t remaining (outcome::rest)) :
    (InScope session outcome → 0 < remaining) ∧
      Fits session (t.read session outcome).1
        (remaining-(t.read session outcome).2.countP (·.2)) rest := by
  refine ⟨h [] outcome rest rfl,?_⟩
  intro before next after hrest hscope
  have hnext := h (outcome::before) next after (by rw [hrest]; rfl) hscope
  unfold Tracing.printed at hnext
  omega

/-- A drain whose records fit keeps the limit. -/
theorem kept_of_fits {limit remaining : ℕ} (reads : List ReadOutcome) (s : SessionState)
    (htotal : s.printed.length+remaining=limit) (hkept : LimitKept limit s)
    (hfits : Fits session s.tracing remaining reads) :
    LimitKept limit (drainAfterDone session reads s) := by
  induction reads generalizing s remaining with
  | nil => exact hkept
  | cons outcome rest ih =>
    obtain ⟨hfirst,hrest⟩ := hfits.cons
    change LimitKept limit (drainAfterDone session rest (s.read session outcome))
    rcases read_prints session s outcome with
      ⟨hcount,htracing,hprinted,-⟩ | ⟨hscope,hcount,htracing,⟨view,hprinted⟩,-⟩
    · rw [hcount,Nat.sub_zero,← htracing] at hrest
      refine ih (s.read session outcome) (by rw [hprinted]; exact htotal) ⟨?_,?_⟩ hrest
      · rw [hprinted]
        exact hkept.bounded
      · intro hall
        rw [hprinted] at hall ⊢
        rcases read_cases session s.tracing outcome with
          ⟨hscope,-,-⟩ | ⟨-,hrouted,-⟩
        · have hleft := hfirst hscope
          omega
        · rw [htracing,hrouted]
          exact hkept.stops hall
    · have hleft := hfirst hscope
      have hlength : (s.read session outcome).printed.length=s.printed.length+1 := by
        rw [hprinted,List.length_append]
        rfl
      rw [hcount,← htracing] at hrest
      refine ih (s.read session outcome) (by omega) ⟨by omega,?_⟩ hrest
      intro _
      rw [hprinted,List.getLast?_append]
      rfl

/-- A drain prints what its reads print, after what was printed; the records routed only grow. -/
theorem drain_extends (reads : List ReadOutcome) (s : SessionState) :
    (drainAfterDone session reads s).printed.length=
        s.printed.length+s.tracing.printed session reads ∧
      s.printed <+: (drainAfterDone session reads s).printed ∧
      s.tracing.routed.length ≤ (drainAfterDone session reads s).tracing.routed.length := by
  induction reads generalizing s with
  | nil => exact ⟨rfl,List.prefix_rfl,Nat.le_refl _⟩
  | cons outcome rest ih =>
    obtain ⟨hlength,hstart,hrouted⟩ := ih (s.read session outcome)
    have hgrows := routed_read_le session s.tracing outcome
    change (drainAfterDone session rest (s.read session outcome)).printed.length=_ ∧
      s.printed <+: (drainAfterDone session rest (s.read session outcome)).printed ∧
      _ ≤ (drainAfterDone session rest (s.read session outcome)).tracing.routed.length
    unfold Tracing.printed
    rcases read_prints session s outcome with
      ⟨hcount,htracing,hprinted,-⟩ | ⟨-,hcount,htracing,⟨view,hprinted⟩,-⟩
    · rw [htracing] at hlength hrouted
      rw [hprinted] at hlength hstart
      exact ⟨by omega,hstart,by omega⟩
    · have hone : (s.read session outcome).printed.length=s.printed.length+1 := by
        rw [hprinted,List.length_append]
        rfl
      rw [htracing] at hlength hrouted
      refine ⟨by omega,?_,by omega⟩
      rw [hprinted] at hstart
      exact (List.prefix_append _ _).trans hstart

/-- What is printed was completed by a routed record, after any drain. -/
theorem drain_routed (reads : List ReadOutcome) (s : SessionState)
    (h : ∀ entry∈s.printed, entry.1 ≤ s.tracing.routed.length) :
    ∀ entry∈(drainAfterDone session reads s).printed,
      entry.1 ≤ (drainAfterDone session reads s).tracing.routed.length := by
  induction reads generalizing s with
  | nil => exact h
  | cons outcome rest ih =>
    refine ih (s.read session outcome) ?_
    intro entry hentry
    have hgrows := routed_read_le session s.tracing outcome
    rcases read_prints session s outcome with
      ⟨-,htracing,hprinted,-⟩ | ⟨-,-,htracing,⟨view,hprinted⟩,-⟩
    · rw [hprinted] at hentry
      rw [htracing]
      exact Nat.le_trans (h entry hentry) hgrows
    · rw [hprinted] at hentry
      rcases List.mem_append.mp hentry with hentry | hentry
      · rw [htracing]
        exact Nat.le_trans (h entry hentry) hgrows
      · rw [List.mem_singleton.mp hentry]

/-- A drain that keeps the limit has no record of a traced process after the last syscall. -/
theorem fits_of_kept {limit : ℕ} (reads : List ReadOutcome) (s : SessionState)
    (h : Counts limit s)
    (hkept : LimitKept limit (drainAfterDone session reads s)) :
    Fits session s.tracing s.limit.remaining reads := by
  intro before outcome after hreads hscope
  by_contra hover
  have hsplit : drainAfterDone session reads s=
      drainAfterDone session after
        ((drainAfterDone session before s).read session outcome) := by
    unfold drainAfterDone
    rw [hreads,List.foldl_append]
    rfl
  obtain ⟨hbefore,-,-⟩ := drain_extends session before s
  have hindex := drain_routed session before s h.routed
  generalize drainAfterDone session before s = middle at hsplit hbefore hindex
  have hlast : drainAfterDone session (outcome::after) middle=
      drainAfterDone session after (middle.read session outcome) := rfl
  obtain ⟨-,hstart,-⟩ := drain_extends session (outcome::after) middle
  obtain ⟨-,-,hrouted⟩ := drain_extends session after (middle.read session outcome)
  rw [hlast,← hsplit] at hstart
  rw [← hsplit] at hrouted
  have htotal := h.total
  have hbounded := hkept.bounded
  have hshorter := hstart.length_le
  have hsame : middle.printed=(drainAfterDone session reads s).printed :=
    hstart.eq_of_length (by omega)
  have hstops := hkept.stops (by omega)
  have hgrows : (middle.read session outcome).tracing.routed.length=
      middle.tracing.routed.length+1 := by
    have htracing : (middle.read session outcome).tracing=
        (middle.tracing.read session outcome).1 := by
      rcases read_prints session middle outcome with ⟨-,hread,-⟩ | ⟨-,-,hread,-⟩
      · exact hread
      · exact hread
    rcases read_cases session middle.tracing outcome with
      ⟨-,hone,-⟩ | ⟨hno,-,-⟩
    · rw [htracing,hone]
    · exact absurd hscope hno
  rw [← hsame] at hstops
  obtain ⟨entry,hentry,hposition⟩ := Option.map_eq_some_iff.mp hstops
  have hmem : entry∈middle.printed := List.mem_of_getLast? hentry
  have hle := hindex entry hmem
  omega

end Drain

section Session

/-- A session starts with the whole limit. -/
theorem newSession_counts (session : Components) {limit : ℕ} (hlimit : 0 < limit) :
    Counts limit (newSession session limit) where
  enabled := decide_eq_true hlimit
  total := Nat.zero_add limit
  routed := by
    intro entry hentry
    exact absurd hentry List.not_mem_nil

/-- A run keeps its limit exactly when the records drained at its end fit what the rounds have
left of it. -/
theorem limit_kept_iff (session : Components) (limit : ℕ) (hlimit : 1 ≤ limit)
    (hasCommand : Bool) (targetPID : UInt32) (attaches : Bool) (rounds : List Round)
    (rest : Remainder) :
    LimitKept limit (run session rounds rest (newTraceRunState hasCommand targetPID attaches)
      (newSession session limit)) ↔
      ∀ s grace, poll session rounds (newTraceRunState hasCommand targetPID attaches)
        (newSession session limit)=.done s grace →
        Fits session s.tracing s.limit.remaining (rest.reads grace) := by
  have hcounts := newSession_counts session hlimit
  have hkeeps := poll_keeps session rounds
    (newTraceRunState hasCommand targetPID attaches) _ hcounts hlimit
  unfold run
  cases hpoll : poll session rounds (newTraceRunState hasCommand targetPID attaches)
    (newSession session limit) with
  | polling s =>
    rw [hpoll] at hkeeps
    exact iff_of_true hkeeps fun _ _ hdone => nomatch hdone
  | stopped s =>
    rw [hpoll] at hkeeps
    exact iff_of_true hkeeps fun _ _ hdone => nomatch hdone
  | done s grace =>
    rw [hpoll] at hkeeps
    obtain ⟨hcount,hleft⟩ := hkeeps
    constructor
    · intro hkept s' grace' hdone
      cases hdone
      exact fits_of_kept session (rest.reads grace) s hcount hkept
    · intro hfits
      exact kept_of_fits session (rest.reads grace) s hcount.total (hcount.kept hleft)
        (hfits s grace rfl)

/-- Session of process 7 that prints every syscall; exits do not wait. -/
def sampleSession : Components where
  tables := ⟨fun _ => "read",fun _ => false,fun _ => false⟩
  config := {deferUnmatchedExits := false}
  scope := {targetPID := 7}
  prints _ _ := true

/-- Exit of a syscall of process 7. -/
def sampleExit (start : UInt64) : TraceEventEnvelope where
  eventType := .exit
  pid := 7
  tid := 7
  enterTime := start

/-- The kernel saw the command exit, and its records do not come in time. -/
def sampleRounds : List Round :=
  [ {seen := {commandDone := true, targetExited := .ok true, now := 0}, reads := [.noEvent]},
    {seen := {targetExited := .ok true, now := traceExitLifecycleDrainGrace}} ]

/-- Some exits are left in the buffer. -/
def sampleRemainder (starts : List UInt64) : Remainder where
  flushed := starts.map fun start => .record none (sampleExit start)

/-- A drain of one exit keeps a limit of one. -/
theorem limit_kept_draining_one :
    LimitKept 1 (run sampleSession sampleRounds (sampleRemainder [1])
      (newTraceRunState true 7 false) (newSession sampleSession 1)) := by
  refine (limit_kept_iff sampleSession 1 (Nat.le_refl 1) true 7 false _ _).mpr ?_
  intro s grace hdone before outcome after hreads _
  cases hdone
  cases before with
  | nil => exact Nat.one_pos
  | cons first before =>
    have hlength := congrArg List.length hreads
    rw [List.cons_append,List.length_cons,List.length_append,List.length_cons] at hlength
    change 1=_ at hlength
    omega

/-- A drain prints two syscalls under a limit of one. -/
theorem drain_exceeds_limit :
    ¬LimitKept 1 (run sampleSession sampleRounds (sampleRemainder [1,2])
      (newTraceRunState true 7 false) (newSession sampleSession 1)) := by
  intro hkept
  have htwo : (run sampleSession sampleRounds (sampleRemainder [1,2])
      (newTraceRunState true 7 false) (newSession sampleSession 1)).printed.length=2 := by
    decide +kernel
  have hbounded := hkept.bounded
  omega

end Session

end StraceGo.SyscallLimit

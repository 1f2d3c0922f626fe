import StraceGo.FiniteMaps
import Mathlib.Algebra.Ring.Int.Defs

/-!
# Exit-status lines between the event stream and process wait

The line that reports the end of the command is queued by the event stream and
printed after the stream is drained, when process wait has confirmed the end.
Wait brings a line of its own, for streams without one. A successful exec by
another thread discards the line its leader left behind.

Discarding also forgets that wait has confirmed the end. The main result says
for which orders of the two sources the line is nevertheless printed.
-/

namespace StraceGo.ExitStatus

open FiniteMaps

/-- Queued lines and wait results by process. -/
structure ExitStatusQueue where
  /-- Lines of the event stream. -/
  pending : GoMap ℤ String := ∅
  /-- Processes that wait has confirmed. -/
  exited : GoMap ℤ Bool := ∅
  /-- Lines of process wait. -/
  fallback : GoMap ℤ String := ∅
  /-- Processes whose line was printed before the stream was drained. -/
  released : GoMap ℤ Bool := ∅

namespace ExitStatusQueue

variable (q : ExitStatusQueue)

/-- Keep a line of the event stream unless the process has its line already. -/
def queue (pid : ℤ) (line : String) : ExitStatusQueue :=
  if (q.released.lookup pid).getD false then q
  else {q with pending := q.pending.insert pid line}

/-- Note that wait has confirmed the end of a process, with a line of its own. -/
def markExitedWithFallback (pid : ℤ) (fallback : String) : ExitStatusQueue :=
  let q := {q with exited := q.exited.insert pid true}
  if fallback≠"" then {q with fallback := q.fallback.insert pid fallback} else q

/-- Forget everything about a process. -/
def discard (pid : ℤ) : ExitStatusQueue where
  pending := q.pending.erase pid
  exited := q.exited.erase pid
  fallback := q.fallback.erase pid
  released := q.released.erase pid

/-- Line of a confirmed process, the stream's own one first. -/
def flushFallback (pid : ℤ) : ExitStatusQueue×Option String :=
  if (q.exited.lookup pid).getD false=false then (q,none)
  else
    let line := (q.pending.lookup pid).or (q.fallback.lookup pid)
    ({q with
      pending := q.pending.erase pid
      exited := q.exited.erase pid
      fallback := q.fallback.erase pid},line.filter (· ≠ ""))

/-- Line of a confirmed process before the stream is drained; later ones are stale. -/
def flushAfterWait (pid : ℤ) : ExitStatusQueue×Option String :=
  match q.flushFallback pid with
  | (q,none) => (q,none)
  | (q,some line) => ({q with released := q.released.insert pid true},some line)

end ExitStatusQueue

/-- The queue with the output it writes to. -/
structure ExitStatusCoordinator where
  /-- The queue. -/
  queue : ExitStatusQueue := {}
  /-- Attached processes. -/
  attachPids : List ℤ := []
  /-- Printed lines with the process they are about, oldest first. -/
  out : List (ℤ×String) := []

namespace ExitStatusCoordinator

variable (c : ExitStatusCoordinator)

/-- Print the line an operation hands out, if any. -/
def write (pid : ℤ) (result : ExitStatusQueue×Option String) : ExitStatusCoordinator :=
  {c with queue := result.1, out := c.out++(result.2.map (pid,·)).toList}

/-- Keep a line of the event stream. -/
def queueLine (pid : ℤ) (line : String) : ExitStatusCoordinator :=
  {c with queue := c.queue.queue pid line}

/-- Forget everything about a process. -/
def discard (pid : ℤ) : ExitStatusCoordinator := {c with queue := c.queue.discard pid}

/-- Note a wait result; attach runs print the line of the command at once. -/
def markExitedWithFallback (pid : ℤ) (fallback : String) : ExitStatusCoordinator :=
  let c := {c with queue := c.queue.markExitedWithFallback pid fallback}
  if c.attachPids=[] then c else c.write pid (c.queue.flushAfterWait pid)

/-- Print the line of a process after the stream is drained. -/
def flushFallback (pid : ℤ) : ExitStatusCoordinator := c.write pid (c.queue.flushFallback pid)

end ExitStatusCoordinator

/-- A step of the event stream. -/
inductive StreamStep where
  | queue (pid : ℤ) (line : String)
  | discard (pid : ℤ)
  deriving DecidableEq

/-- Apply a step of the event stream. -/
def StreamStep.apply (c : ExitStatusCoordinator) : StreamStep → ExitStatusCoordinator
  | .queue pid line => c.queueLine pid line
  | .discard pid => c.discard pid

/-- Apply steps of the event stream in order. -/
def runStream (c : ExitStatusCoordinator) (steps : List StreamStep) : ExitStatusCoordinator :=
  steps.foldl StreamStep.apply c

/-- Line of a process after one more step of the stream. -/
def nextLine (pid : ℤ) (line : Option String) : StreamStep → Option String
  | .queue other next => if other=pid then some next else line
  | .discard other => if other=pid then none else line

/-- Last line queued for a process after its last discard. -/
def lastLine (pid : ℤ) (steps : List StreamStep) : Option String :=
  steps.foldl (nextLine pid) none

/-- The run of a session: the stream with the wait result at some position, then the flush. -/
def session (pid : ℤ) (fallback : String) (before after : List StreamStep) :
    ExitStatusCoordinator :=
  (runStream ((runStream {} before).markExitedWithFallback pid fallback) after).flushFallback pid

section Streams

variable {c : ExitStatusCoordinator} {pid : ℤ}

/-- What matters for the line of one process. -/
structure Tracks (pid : ℤ) (c : ExitStatusCoordinator) (line : Option String) : Prop where
  /-- Nothing has been printed. -/
  out_eq : c.out=[]
  /-- The run attaches to nothing. -/
  attachPids_eq : c.attachPids=[]
  /-- No line went out early. -/
  released_eq : c.queue.released=∅
  /-- The queued line. -/
  pending_eq : c.queue.pending.lookup pid=line

theorem Tracks.new (pid : ℤ) : Tracks pid {} none := ⟨rfl,rfl,rfl,Finmap.lookup_empty pid⟩

theorem Tracks.queueLine {line : Option String} (h : Tracks pid c line) (other : ℤ)
    (next : String) :
    Tracks pid (c.queueLine other next) (nextLine pid line (.queue other next)) := by
  have hqueue : c.queue.queue other next=
      {c.queue with pending := c.queue.pending.insert other next} := by
    have hreleased : (c.queue.released.lookup other).getD false=false := by
      rw [h.released_eq,Finmap.lookup_empty]
      rfl
    unfold ExitStatusQueue.queue
    rw [hreleased,if_neg Bool.false_ne_true]
  unfold ExitStatusCoordinator.queueLine nextLine
  rw [hqueue]
  refine ⟨h.out_eq,h.attachPids_eq,h.released_eq,?_⟩
  dsimp only
  rw [lookup_insert_ite,h.pending_eq]
  simp only [eq_comm]

theorem Tracks.discard {line : Option String} (h : Tracks pid c line) (other : ℤ) :
    Tracks pid (c.discard other) (nextLine pid line (.discard other)) := by
  unfold ExitStatusCoordinator.discard ExitStatusQueue.discard nextLine
  refine ⟨h.out_eq,h.attachPids_eq,?_,?_⟩
  · dsimp only
    rw [h.released_eq]
    exact erase_eq_self (Finmap.lookup_empty other)
  · dsimp only
    rw [lookup_erase_ite,h.pending_eq]
    simp only [eq_comm]

/-- The stream keeps the queued line current. -/
theorem Tracks.runStream {line : Option String} (h : Tracks pid c line)
    (steps : List StreamStep) :
    Tracks pid (ExitStatus.runStream c steps) (steps.foldl (nextLine pid) line) := by
  unfold ExitStatus.runStream
  induction steps generalizing c line with
  | nil => exact h
  | cons step steps ih =>
    cases step with
    | queue other next => exact ih (h.queueLine other next)
    | discard other => exact ih (h.discard other)

/-- A wait result leaves the queued line. -/
theorem Tracks.markExited {line : Option String} (h : Tracks pid c line) {fallback : String}
    (hfallback : fallback≠"") :
    Tracks pid (c.markExitedWithFallback pid fallback) line ∧
      (c.markExitedWithFallback pid fallback).queue.exited.lookup pid=some true ∧
      (c.markExitedWithFallback pid fallback).queue.fallback.lookup pid=some fallback := by
  unfold ExitStatusCoordinator.markExitedWithFallback ExitStatusQueue.markExitedWithFallback
  dsimp only
  rw [if_pos h.attachPids_eq,if_pos hfallback]
  exact ⟨⟨h.out_eq,h.attachPids_eq,h.released_eq,h.pending_eq⟩,Finmap.lookup_insert _,
    Finmap.lookup_insert _⟩

/-- A wait result survives the stream exactly until the process is discarded. -/
theorem runStream_wait (c : ExitStatusCoordinator) (pid : ℤ) (steps : List StreamStep) :
    (runStream c steps).queue.exited.lookup pid=
      (if .discard pid∈steps then none else c.queue.exited.lookup pid) ∧
    (runStream c steps).queue.fallback.lookup pid=
      (if .discard pid∈steps then none else c.queue.fallback.lookup pid) := by
  unfold runStream
  induction steps generalizing c with
  | nil => simp
  | cons step steps ih =>
    rw [List.foldl_cons,(ih _).1,(ih _).2]
    cases step with
    | queue other next =>
      have hqueue : (c.queue.queue other next).exited=c.queue.exited ∧
          (c.queue.queue other next).fallback=c.queue.fallback := by
        unfold ExitStatusQueue.queue
        split_ifs <;> exact ⟨rfl,rfl⟩
      unfold StreamStep.apply ExitStatusCoordinator.queueLine
      dsimp only
      rw [hqueue.1,hqueue.2]
      simp
    | discard other =>
      unfold StreamStep.apply ExitStatusCoordinator.discard ExitStatusQueue.discard
      dsimp only
      rw [lookup_erase_ite,lookup_erase_ite]
      by_cases heq : pid=other
      · simp [heq]
      · have hne : StreamStep.discard pid≠.discard other := by simp [heq]
        simp [heq,hne]

/-- The last line of a stream with non-empty lines is not empty. -/
theorem lastLine_ne_empty {steps : List StreamStep}
    (hlines : ∀ other line, .queue other line∈steps → line≠"") {line : String}
    (h : lastLine pid steps=some line) : line≠"" := by
  unfold lastLine at h
  induction steps using List.reverseRecOn with
  | nil => cases h
  | append_singleton steps step ih =>
    rw [List.foldl_append,List.foldl_cons,List.foldl_nil] at h
    have hrest : ∀ other line, .queue other line∈steps → line≠"" :=
      fun other line hmem => hlines other line (List.mem_append_left _ hmem)
    cases step with
    | queue other next =>
      unfold nextLine at h
      dsimp only at h
      split_ifs at h with heq
      · rw [←Option.some.inj h]
        exact hlines other next (List.mem_append_right _ (List.mem_singleton_self _))
      · exact ih hrest h
    | discard other =>
      unfold nextLine at h
      dsimp only at h
      split_ifs at h
      exact ih hrest h

end Streams

/-- A run without attach targets prints exactly the last queued line, or the line of process
wait without one, if and only if the stream does not discard the process after the wait result. -/
theorem session_prints_iff (pid : ℤ) (fallback : String) (before after : List StreamStep)
    (hfallback : fallback≠"")
    (hlines : ∀ other line, .queue other line∈before++after → line≠"") :
    (session pid fallback before after).out=
      [(pid,(lastLine pid (before++after)).getD fallback)] ↔ .discard pid∉after := by
  obtain ⟨hmarked,hexited,hkept⟩ := ((Tracks.new pid).runStream before).markExited hfallback
  have hdrained := hmarked.runStream after
  obtain ⟨hwait,hline⟩ := runStream_wait
    ((runStream {} before).markExitedWithFallback pid fallback) pid after
  rw [←List.foldl_append] at hdrained
  have hlast : lastLine pid (before++after)=(before++after).foldl (nextLine pid) none := rfl
  rw [←hlast] at hdrained
  unfold session ExitStatusCoordinator.flushFallback ExitStatusCoordinator.write
    ExitStatusQueue.flushFallback
  dsimp only
  rw [hdrained.out_eq,hdrained.pending_eq,hwait,hline,hexited,hkept]
  by_cases hdiscard : .discard pid∈after
  · simp [hdiscard]
  · rw [if_neg hdiscard,if_neg hdiscard]
    simp only [hdiscard,not_false_eq_true,iff_true]
    cases hresult : lastLine pid (before++after) with
    | none => simp [hfallback]
    | some line => simp [lastLine_ne_empty hlines hresult]

/-- The wait result comes before a replaced leader's line is discarded and the last line queued. -/
theorem session_prints_iff_exec :
    (session 101 "fallback\n" [.queue 101 "leader\n",.discard 101] [.queue 101 "exit\n"]).out=
      [(101,"exit\n")] := by
  refine (session_prints_iff 101 "fallback\n" [.queue 101 "leader\n",.discard 101]
    [.queue 101 "exit\n"] (by decide) ?_).mpr (by decide)
  intro other line hmem
  simp only [List.cons_append,List.nil_append,List.mem_cons,StreamStep.queue.injEq,reduceCtorEq,
    List.not_mem_nil,or_false,false_or] at hmem
  rcases hmem with ⟨-,rfl⟩ | ⟨-,rfl⟩
  · decide
  · decide

/-- The same stream prints nothing when the wait result comes first. -/
theorem session_silent_exec :
    (session 101 "fallback\n" [] [.queue 101 "leader\n",.discard 101,.queue 101 "exit\n"]).out=
        [] ∧
      lastLine 101 [.queue 101 "leader\n",.discard 101,.queue 101 "exit\n"]=some "exit\n" ∧
      (session 101 "fallback\n" [.queue 101 "leader\n",.discard 101,.queue 101 "exit\n"] []).out=
        [(101,"exit\n")] := by
  decide +kernel

end StraceGo.ExitStatus

import Mathlib.Data.Finset.Insert
import Mathlib.Data.Finset.Erase
import StraceGo.FallibleStages
import StraceGo.ResourceLedger

/-!
# Bootstrap of the targets

Before a trace runs, its command is started behind an armed fork, the processes to
attach to are opened and checked, and all of them are put into the maps that the
event programs filter by. Any request of this may fail. A failed bootstrap has
closed what it opened, killed the command it started and taken every process out
of the maps again, unless the request to do so failed as well.
-/

namespace StraceGo.TargetBootstrap

open FallibleStages ResourceLedger

section World

/-- Requests that may fail. -/
inductive Request where
  | prepareTargets
  | setupBPF
  | newEventReader
  | configureBPF
  | scanDescriptors
  | classifyDescriptors
  | duplicate (fd : ℕ)
  | workingDirectory
  | credential
  | armNextFork
  | disarmNextFork
  | start
  | kill
  | openIdentity (pid : ℕ)
  | pollIdentity (pid : ℕ)
  | stillRuns (pid : ℕ)
  | closeIdentity (id : ℕ)
  | deleteFilter (pid : UInt32)
  | deleteRoot (pid : UInt32)
  | deleteExited (pid : UInt32)
  | updateRoot (pid : UInt32)
  | updateFilter (pid : UInt32)
  | closeFile (id : ℕ)
  | setupOutput
  | selectPID
  | composeSession
  | runSession
  | closeOutput
  | closeReader
  | closeBPF
  deriving DecidableEq, Repr

/-- Why a stage fails: a request of it failed, or it refused to work. -/
inductive Cause where
  | failed (request : Request)
  | refused (text : String)
  deriving DecidableEq, Repr

/-- What the launch meets. -/
structure Env where
  /-- Whether a request fails, by the number of requests before it. -/
  fails : ℕ → Bool
  /-- One more than the largest descriptor that is looked at. -/
  fdLimit : ℕ
  /-- Descriptors that are open. -/
  openFD : ℕ → Bool
  /-- Descriptors that the command inherits when they are open. -/
  passThrough : ℕ → Bool
  /-- Process of the command. -/
  startedPID : ℕ
  /-- Processes have positive numbers. -/
  startedPID_pos : 0 < startedPID

/-- Maps that the event programs filter by. -/
structure FilterMaps where
  /-- Processes whose events are kept. -/
  filter : Finset UInt32 := ∅
  /-- Processes that were attached to. -/
  roots : Finset UInt32 := ∅
  /-- Attached processes that have ended. -/
  exited : Finset UInt32 := ∅
  deriving DecidableEq

/-- The started command. -/
structure Target where
  /-- Its process. -/
  pid : ℕ
  /-- Whether it was told to end. -/
  abortRequested : Bool := false
  /-- Attempts to kill it. -/
  kills : ℕ := 0
  /-- Whether its end was waited for. -/
  waited : Bool := false
  deriving DecidableEq, Repr

/-- Steps of a cleanup plan. -/
inductive CleanupStep where
  | bpfRuntime (id : ℕ)
  | ringbufReader (id : ℕ)
  | targetBootstrap
  | targetHandoff
  | output (id : ℕ)
  deriving DecidableEq, Repr

/-- What the launch has built up. -/
structure Launch where
  /-- Whether the maps can be reached. -/
  bpfOpen : Bool := false
  /-- Duplicated descriptors, by the number the command sees, less three. -/
  inherited : List (Option ℕ) := []
  /-- Whether the handoff still owns the targets. -/
  targetOwned : Bool := false
  /-- Whether the handoff has a command. -/
  hasTarget : Bool := false
  /-- Processes that the handoff takes out of the maps. -/
  filterPIDs : List UInt32 := []
  /-- Whether the handoff still owns the output. -/
  outputOwned : Bool := false
  /-- Registered cleanup steps. -/
  plan : List CleanupStep := []
  /-- Whether the plan was carried out. -/
  planClosed : Bool := false
  deriving DecidableEq, Repr

/-- State of a launch. -/
structure World where
  /-- Requests made. -/
  history : List Request := []
  /-- Causes that came up. -/
  log : List Cause := []
  /-- Resources obtained and closed. -/
  ledger : Ledger := {}
  /-- Filter maps. -/
  maps : FilterMaps := {}
  /-- Whether the next fork is put into the filter. -/
  armed : Bool := false
  /-- The command. -/
  target : Option Target := none
  /-- The rest. -/
  launch : Launch := {}

/-- Causes of the requests of a history that fail. -/
def reported (fails : ℕ → Bool) (history : List Request) : List Cause :=
  (history.zipIdx.filter fun entry => fails entry.2).map fun entry => .failed entry.1

end World

section Stages

variable (env : Env)

/-- A part of a launch. -/
abbrev LaunchStage (A : Type) : Type := Stage World Cause A

/-- Make a request. -/
def request (r : Request) : LaunchStage Unit := fun w =>
  if env.fails w.history.length then
    (.error [.failed r],{w with history := w.history ++ [r], log := w.log ++ [.failed r]})
  else (.ok (),{w with history := w.history ++ [r]})

/-- Refuse to work. -/
def refuse (text : String) : LaunchStage Unit := fun w =>
  (.error [.refused text],{w with log := w.log ++ [.refused text]})

/-- Change a map. -/
def mapRequest (r : Request) (f : FilterMaps → FilterMaps) : LaunchStage Unit := do
  request env r
  Stage.modify fun w => {w with maps := f w.maps}

/-- Change whether the next fork is put into the filter. -/
def armRequest (r : Request) (armed : Bool) : LaunchStage Unit := do
  let w ← Stage.get
  if !w.launch.bpfOpen then refuse "BPF arm fork map is unavailable"
  else
    request env r
    Stage.modify fun w => {w with armed := armed}

/-- Put the next fork into the filter. -/
def armNextFork : LaunchStage Unit := armRequest env .armNextFork true

/-- Leave the next fork alone. -/
def disarmNextFork : LaunchStage Unit := armRequest env .disarmNextFork false

/-- Take a process out of the filter. -/
def eraseFilter (pid : UInt32) (m : FilterMaps) : FilterMaps :=
  {m with filter := m.filter.erase pid}

/-- Take a process out of the roots. -/
def eraseRoot (pid : UInt32) (m : FilterMaps) : FilterMaps := {m with roots := m.roots.erase pid}

/-- Forget that a process has ended. -/
def eraseExited (pid : UInt32) (m : FilterMaps) : FilterMaps :=
  {m with exited := m.exited.erase pid}

/-- Put a process into the roots. -/
def insertRoot (pid : UInt32) (m : FilterMaps) : FilterMaps := {m with roots := insert pid m.roots}

/-- Put a process into the filter. -/
def insertFilter (pid : UInt32) (m : FilterMaps) : FilterMaps :=
  {m with filter := insert pid m.filter}

/-- Put a process into the maps. -/
def addFilterPID (pid : UInt32) : LaunchStage Unit := do
  let w ← Stage.get
  if !w.launch.bpfOpen then refuse "BPF filter map is unavailable"
  else
    mapRequest env (.deleteExited pid) (eraseExited pid)
    mapRequest env (.updateRoot pid) (insertRoot pid)
    (mapRequest env (.updateFilter pid) (insertFilter pid)).rollback
      (mapRequest env (.deleteRoot pid) (eraseRoot pid))

/-- Take a process out of the maps. -/
def deleteFilterPID (pid : UInt32) : LaunchStage Unit := do
  let w ← Stage.get
  if !w.launch.bpfOpen then pure ()
  else
    (mapRequest env (.deleteFilter pid) (eraseFilter pid)).also
      ((mapRequest env (.deleteRoot pid) (eraseRoot pid)).also
        (mapRequest env (.deleteExited pid) (eraseExited pid)))

/-- Take processes out of the maps. -/
def clearFilterPids (pids : List UInt32) : LaunchStage Unit :=
  Stage.alsoEach (deleteFilterPID env) pids

/-- Change the command. -/
def modifyTarget (f : Target → Target) : LaunchStage Unit :=
  Stage.modify fun w => {w with target := w.target.map f}

/-- End the command and wait for its end; only the first call does. -/
def abort : LaunchStage Unit := do
  let w ← Stage.get
  match w.target with
  | none => pure ()
  | some t =>
    if t.abortRequested then pure ()
    else
      modifyTarget fun t => {t with abortRequested := true, kills := t.kills+1}
      (request env .kill).also (modifyTarget fun t => {t with waited := true})

/-- End the command when there is one. -/
def terminateTraceTarget (hasTarget : Bool) : LaunchStage Unit :=
  if hasTarget then abort env else pure ()

/-- Take the command out of the maps and end it. -/
def abortTraceTarget (hasTarget : Bool) (targetPID : ℕ) : LaunchStage Unit :=
  (if targetPID > 0 then clearFilterPids env [UInt32.ofNat targetPID] else pure ()).also
    (terminateTraceTarget env hasTarget)

/-- Start the command behind an armed fork; its process. -/
def startTraceCmd : LaunchStage ℕ := do
  request env .workingDirectory
  request env .credential
  armNextFork env
  (request env .start).rollback (disarmNextFork env)
  Stage.modify fun w => {w with target := some {pid := env.startedPID}}
  (addFilterPID env (UInt32.ofNat env.startedPID)).rollback
    ((disarmNextFork env).also (abortTraceTarget env true env.startedPID))
  (disarmNextFork env).rollback (abortTraceTarget env true env.startedPID)
  pure env.startedPID

/-- Obtain a resource; its number. -/
def obtain : LaunchStage ℕ := do
  let w ← Stage.get
  Stage.modify fun w => {w with ledger := w.ledger.obtain 1}
  pure w.ledger.opened

/-- Try to close a resource. -/
def close (id : ℕ) (r : Request) : LaunchStage Unit := do
  Stage.modify fun w => {w with ledger := w.ledger.attempt [id]}
  request env r

/-- Open a process to attach to. -/
def openIdentity (pid : ℕ) : LaunchStage ℕ := do
  if pid=0 then refuse "attach pid must be positive"
  request env (.openIdentity pid)
  obtain

/-- Close an opened process. -/
def closeIdentity (id : ℕ) : LaunchStage Unit := close env id (.closeIdentity id)

/-- Attach to a process behind others. -/
def attachToPid (attached : List UInt32) (pid : ℕ) : LaunchStage Unit := do
  let id ← (openIdentity env pid).rollback (clearFilterPids env attached)
  let attached := attached ++ [UInt32.ofNat pid]
  let undo := (closeIdentity env id).also (clearFilterPids env attached)
  (addFilterPID env (UInt32.ofNat pid)).rollback undo
  (request env (.pollIdentity pid)).rollback undo
  (request env (.stillRuns pid)).rollback undo
  (closeIdentity env id).rollback (clearFilterPids env attached)

/-- Attach to processes behind others. -/
def attachLoop (attached : List UInt32) : List ℕ → LaunchStage Unit
  | [] => pure ()
  | pid::pids => do
    attachToPid env attached pid
    attachLoop (attached ++ [UInt32.ofNat pid]) pids

/-- Attach to processes; the first of them. -/
def attachToPids (pids : List ℕ) : LaunchStage ℕ := do
  attachLoop env [] pids
  pure (pids.headD 0)

/-- Targets of a launch. -/
structure TraceTargetConfig where
  /-- Whether there is a command. -/
  hasCommand : Bool
  /-- Processes to attach to. -/
  attachPIDs : List ℕ
  /-- They have positive numbers. -/
  attachPIDs_pos : ∀ pid∈attachPIDs, 0 < pid

/-- Start the command when there is one. -/
def startCommand (targets : TraceTargetConfig) : LaunchStage ℕ :=
  if targets.hasCommand then startTraceCmd env else pure 0

/-- Start the command and attach to the processes; whether there is a command, and the first
process. -/
def resolve (targets : TraceTargetConfig) : LaunchStage (Bool×ℕ) := do
  let targetPID ← startCommand env targets
  if targets.attachPIDs=[] then pure (targets.hasCommand,targetPID)
  else
    let firstPID ← (attachToPids env targets.attachPIDs).rollback
      (abortTraceTarget env targets.hasCommand targetPID)
    pure (targets.hasCommand,if targetPID=0 then firstPID else targetPID)

/-- Descriptors that are open, in their order. -/
def openFileDescriptors : List ℕ := (List.range' 3 (env.fdLimit-3)).filter env.openFD

/-- Close the duplicated descriptors. -/
def closeFiles : LaunchStage Unit := do
  let w ← Stage.get
  Stage.alsoEach (fun id => close env id (.closeFile id)) (w.launch.inherited.filterMap id)

/-- Duplicate a descriptor into its place. -/
def duplicateInheritedFile (fd : ℕ) : LaunchStage Unit := do
  request env (.duplicate fd)
  let id ← obtain
  Stage.modify fun w =>
    {w with launch := {w.launch with inherited := w.launch.inherited.set (fd-3) (some id)}}

/-- Change the duplicated descriptors. -/
def setInherited (files : List (Option ℕ)) : LaunchStage Unit :=
  Stage.modify fun w => {w with launch := {w.launch with inherited := files}}

/-- Duplicate descriptors. -/
def collectInheritedFilesFromFDs (fds : List ℕ) : LaunchStage Unit := do
  if fds=[] then pure ()
  else if fds.any (· < 3) then refuse "inherited file descriptor is below 3"
  else
    setInherited (List.replicate (fds.foldl max 0-2) none)
    (Stage.forEach (duplicateInheritedFile env) fds).rollback
      ((closeFiles env).also (setInherited []))

/-- Duplicate the descriptors that the command inherits. -/
def collectInheritedFiles : LaunchStage Unit := do
  request env .scanDescriptors
  request env .classifyDescriptors
  collectInheritedFilesFromFDs env ((openFileDescriptors env).filter env.passThrough)

end Stages

section Invariant

/-- Whether the session has run. -/
inductive Phase where
  | before
  | ran
  | failed
  deriving DecidableEq

/-- The session has run as far as the requests tell. -/
def Phase.Holds : Phase → List Request → List Cause → Prop
  | .before,history,log => Request.runSession∉history ∧ Cause.failed .runSession∉log
  | .ran,history,log => Request.runSession∈history ∧ Cause.failed .runSession∉log
  | .failed,_,log => Cause.failed .runSession∈log

/-- What is expected of a state. -/
structure Expected where
  /-- Whether the session has run. -/
  phase : Phase := .before
  /-- Resources that are held. -/
  held : List ℕ := []
  /-- Processes that may be in the filter. -/
  filter : List UInt32 := []
  /-- Processes that may be in the roots. -/
  roots : List UInt32 := []
  /-- Whether the next fork may be put into the filter. -/
  armed : Bool := false
  /-- The command. -/
  target : Option Target := none
  /-- The rest. -/
  launch : Launch := {}

/-- A state is as expected, up to requests that failed. -/
structure Inv (env : Env) (e : Expected) (w : World) : Prop where
  /-- Exactly the failed requests came up. -/
  logged : w.log=reported env.fails w.history
  /-- Every resource was closed once or is held. -/
  accounts : Accounts w.ledger e.held []
  /-- Other processes are in the filter when taking them out failed. -/
  filter : ∀ pid∈w.maps.filter, pid∈e.filter ∨ Cause.failed (.deleteFilter pid)∈w.log
  /-- Other processes are in the roots when taking them out failed. -/
  roots : ∀ pid∈w.maps.roots, pid∈e.roots ∨ Cause.failed (.deleteRoot pid)∈w.log
  /-- The fork is armed otherwise when disarming it failed. -/
  armed : w.armed=true → e.armed=true ∨ Cause.failed .disarmNextFork∈w.log
  /-- The command. -/
  target : w.target=e.target
  /-- The rest. -/
  launch : w.launch=e.launch
  /-- The session has run as expected. -/
  phase : e.phase.Holds w.history w.log

variable {env : Env} {e e' : Expected} {w : World} {r : Request}

theorem reported_append (fails : ℕ → Bool) (history : List Request) (r : Request) :
    reported fails (history ++ [r])=
      reported fails history ++ if fails history.length then [.failed r] else [] := by
  rw [reported,reported,List.zipIdx_append,List.filter_append,List.map_append,List.zipIdx_singleton,
    Nat.zero_add,List.filter_singleton]
  dsimp only
  cases fails history.length with
  | true => rfl
  | false => rfl

/-- More may be in the maps. -/
theorem Inv.widen (h : Inv env e w) {filter roots : List UInt32} (hfilter : e.filter⊆filter)
    (hroots : e.roots⊆roots) : Inv env {e with filter := filter, roots := roots} w :=
  { h with
    filter := fun pid hpid => (h.filter pid hpid).imp_left (@hfilter pid)
    roots := fun pid hpid => (h.roots pid hpid).imp_left (@hroots pid) }

/-- A request other than that of the session leaves a state as expected. -/
theorem Inv.requested (h : Inv env e w) (hr : r≠.runSession) (causes : List Cause)
    (hcauses : causes=if env.fails w.history.length then [.failed r] else []) :
    Inv env e {w with history := w.history ++ [r], log := w.log ++ causes} := by
  have hcause : Cause.failed .runSession∉causes := by
    rw [hcauses]
    split_ifs with hfails
    · intro hmem
      have hcause := List.mem_singleton.mp hmem
      exact hr (Cause.failed.inj hcause).symm
    · exact List.not_mem_nil
  have hmem : Request.runSession∈w.history ++ [r] ↔ Request.runSession∈w.history := by
    rw [List.mem_append,List.mem_singleton]
    exact or_iff_left fun heq => hr heq.symm
  have hlog : Cause.failed .runSession∈w.log ++ causes ↔ Cause.failed .runSession∈w.log := by
    rw [List.mem_append]
    exact or_iff_left hcause
  refine ⟨?_,h.accounts,?_,?_,?_,h.target,h.launch,?_⟩
  · change w.log ++ causes=reported env.fails (w.history ++ [r])
    rw [reported_append,←hcauses,h.logged]
  · exact fun pid hpid => (h.filter pid hpid).imp_right (List.mem_append_left _)
  · exact fun pid hpid => (h.roots pid hpid).imp_right (List.mem_append_left _)
  · exact fun harmed => (h.armed harmed).imp_right (List.mem_append_left _)
  · have hphase := h.phase
    cases hexpected : e.phase with
    | before =>
      rw [hexpected] at hphase
      exact ⟨fun hin => hphase.1 (hmem.mp hin),fun hin => hphase.2 (hlog.mp hin)⟩
    | ran =>
      rw [hexpected] at hphase
      exact ⟨hmem.mpr hphase.1,fun hin => hphase.2 (hlog.mp hin)⟩
    | failed =>
      rw [hexpected] at hphase
      exact hlog.mpr hphase

/-- A request that succeeds leaves a state as expected, and one that fails is on record. -/
theorem request_meets (env : Env) (e : Expected) (hr : r≠.runSession) :
    Meets (Inv env e) (request env r) (fun _ => Inv env e)
      (fun _ w => Inv env e w ∧ Cause.failed r∈w.log) := by
  intro w h
  rw [request]
  by_cases hfails : env.fails w.history.length=true
  · rw [if_pos hfails]
    exact ⟨h.requested hr _ (by rw [if_pos hfails]),
      List.mem_append_right _ (List.mem_singleton_self _)⟩
  · rw [if_neg hfails]
    have hdone := h.requested hr [] (by rw [if_neg hfails])
    rw [List.append_nil] at hdone
    exact hdone

theorem request_keeps (env : Env) (e : Expected) (hr : r≠.runSession) :
    Meets (Inv env e) (request env r) (fun _ => Inv env e) (fun _ => Inv env e) :=
  (request_meets env e hr).mono (fun _ h => h) (fun _ _ h => h) fun _ _ h => h.1

/-- A change of a map that makes a state as expected, as its failure does. -/
theorem mapRequest_meets {f : FilterMaps → FilterMaps} (hr : r≠.runSession)
    (hdone : ∀ w, Inv env e w → Inv env e' {w with maps := f w.maps})
    (hfailed : ∀ w, Inv env e w → Cause.failed r∈w.log → Inv env e' w) :
    Meets (Inv env e) (mapRequest env r f) (fun _ => Inv env e') (fun _ => Inv env e') := by
  refine Meets.bind ((request_meets env e hr).mono (fun _ h => h) (fun _ _ h => h)
    fun _ w h => hfailed w h.1 h.2) fun _ => ?_
  exact hdone

end Invariant

section Maps

variable {env : Env} {e : Expected} (pid : UInt32)

/-- Taking a process out of the filter. -/
theorem eraseFilter_meets :
    Meets (Inv env {e with filter := pid::e.filter})
      (mapRequest env (.deleteFilter pid) (eraseFilter pid)) (fun _ => Inv env e)
      (fun _ => Inv env e) := by
  refine mapRequest_meets (fun h => Request.noConfusion h) (fun w h => ?_) fun w h hlog => ?_
  · refine { h with filter := fun other hother => ?_ }
    obtain ⟨hne,hin⟩ := Finset.mem_erase.mp hother
    exact (h.filter other hin).imp_left fun hmem => List.mem_of_ne_of_mem hne hmem
  · refine { h with filter := fun other hother => ?_ }
    rcases h.filter other hother with hmem | hfailed
    · rcases List.mem_cons.mp hmem with rfl | hrest
      · exact .inr hlog
      · exact .inl hrest
    · exact .inr hfailed

/-- Taking a process out of the roots. -/
theorem eraseRoot_meets :
    Meets (Inv env {e with roots := pid::e.roots})
      (mapRequest env (.deleteRoot pid) (eraseRoot pid)) (fun _ => Inv env e)
      (fun _ => Inv env e) := by
  refine mapRequest_meets (fun h => Request.noConfusion h) (fun w h => ?_) fun w h hlog => ?_
  · refine { h with roots := fun other hother => ?_ }
    obtain ⟨hne,hin⟩ := Finset.mem_erase.mp hother
    exact (h.roots other hin).imp_left fun hmem => List.mem_of_ne_of_mem hne hmem
  · refine { h with roots := fun other hother => ?_ }
    rcases h.roots other hother with hmem | hfailed
    · rcases List.mem_cons.mp hmem with rfl | hrest
      · exact .inr hlog
      · exact .inl hrest
    · exact .inr hfailed

theorem eraseExited_meets :
    Meets (Inv env e) (mapRequest env (.deleteExited pid) (eraseExited pid)) (fun _ => Inv env e)
      (fun _ => Inv env e) :=
  mapRequest_meets (fun h => Request.noConfusion h) (fun _ h => { h with })
    fun _ h _ => h

theorem insertRoot_meets :
    Meets (Inv env e) (mapRequest env (.updateRoot pid) (insertRoot pid))
      (fun _ => Inv env {e with roots := pid::e.roots})
      (fun _ => Inv env {e with roots := pid::e.roots}) := by
  refine mapRequest_meets (fun h => Request.noConfusion h) (fun w h => ?_)
    fun w h _ => h.widen (List.Subset.refl _) (List.subset_cons_self _ _)
  refine { h with roots := fun other hother => ?_ }
  rcases Finset.mem_insert.mp hother with rfl | hin
  · exact .inl List.mem_cons_self
  · exact (h.roots other hin).imp_left (List.mem_cons_of_mem _)

theorem insertFilter_meets :
    Meets (Inv env e) (mapRequest env (.updateFilter pid) (insertFilter pid))
      (fun _ => Inv env {e with filter := pid::e.filter})
      (fun _ => Inv env {e with filter := pid::e.filter}) := by
  refine mapRequest_meets (fun h => Request.noConfusion h) (fun w h => ?_)
    fun w h _ => h.widen (List.subset_cons_self _ _) (List.Subset.refl _)
  refine { h with filter := fun other hother => ?_ }
  rcases Finset.mem_insert.mp hother with rfl | hin
  · exact .inl List.mem_cons_self
  · exact (h.filter other hin).imp_left (List.mem_cons_of_mem _)

/-- Expect a process in the maps. -/
def Expected.with (e : Expected) (pids : List UInt32) : Expected :=
  { e with filter := pids ++ e.filter, roots := pids ++ e.roots }

/-- Taking a process out of the maps. -/
theorem deleteFilterPID_meets (hopen : e.launch.bpfOpen=true) :
    Meets (Inv env (e.with [pid])) (deleteFilterPID env pid) (fun _ => Inv env e)
      (fun _ => Inv env e) := by
  refine Meets.get fun w h => ?_
  have hbpf : w.launch.bpfOpen=true := (congrArg Launch.bpfOpen h.launch).trans hopen
  rw [hbpf]
  have hall : Meets (Inv env (e.with [pid]))
      ((mapRequest env (.deleteFilter pid) (eraseFilter pid)).also
        ((mapRequest env (.deleteRoot pid) (eraseRoot pid)).also
          (mapRequest env (.deleteExited pid) (eraseExited pid))))
      (fun _ => Inv env e) (fun _ => Inv env e) := by
    refine Meets.also (eraseFilter_meets (e := {e with roots := pid::e.roots}) pid) ?_
    exact Meets.also (eraseRoot_meets pid) (eraseExited_meets pid)
  exact hall w h

/-- Taking processes out of the maps. -/
theorem clearFilterPids_meets (hopen : e.launch.bpfOpen=true) (pids : List UInt32) :
    Meets (Inv env (e.with pids)) (clearFilterPids env pids) (fun _ => Inv env e)
      (fun _ => Inv env e) :=
  meets_alsoEach (I := fun pids => Inv env (e.with pids))
    (fun pid rest => deleteFilterPID_meets (e := e.with rest) pid hopen) pids

/-- Putting a process into the maps. -/
theorem addFilterPID_meets (hopen : e.launch.bpfOpen=true) :
    Meets (Inv env e) (addFilterPID env pid) (fun _ => Inv env (e.with [pid]))
      (fun _ => Inv env (e.with [pid])) := by
  refine Meets.get fun w h => ?_
  have hbpf : w.launch.bpfOpen=true := (congrArg Launch.bpfOpen h.launch).trans hopen
  rw [hbpf]
  have hwiden (roots : List UInt32) (w : World) (h : Inv env {e with roots := roots} w)
      (hroots : roots⊆pid::e.roots) : Inv env (e.with [pid]) w :=
    h.widen (List.subset_cons_self _ _) hroots
  have hall : Meets (Inv env e) (do
      mapRequest env (.deleteExited pid) (eraseExited pid)
      mapRequest env (.updateRoot pid) (insertRoot pid)
      (mapRequest env (.updateFilter pid) (insertFilter pid)).rollback
        (mapRequest env (.deleteRoot pid) (eraseRoot pid)))
      (fun _ => Inv env (e.with [pid])) (fun _ => Inv env (e.with [pid])) := by
    refine Meets.bind ((eraseExited_meets pid).mono (fun _ h => h) (fun _ _ h => h)
      fun _ w h => hwiden _ w h (List.subset_cons_self _ _)) fun _ => ?_
    refine Meets.bind ((insertRoot_meets pid).mono (fun _ h => h) (fun _ _ h => h)
      fun _ w h => hwiden _ w h (List.Subset.refl _)) fun _ => ?_
    refine Meets.rollback (insertFilter_meets pid) fun _ => ?_
    exact (eraseRoot_meets (e := {e with filter := pid::e.filter}) pid).mono (fun _ h => h)
      (fun _ _ h => h.widen (List.Subset.refl _) (List.subset_cons_self _ _))
      fun _ _ h => h.widen (List.Subset.refl _) (List.subset_cons_self _ _)
  exact hall w h

end Maps

section Command

variable {env : Env} {e : Expected}

theorem armNextFork_meets (hopen : e.launch.bpfOpen=true) :
    Meets (Inv env e) (armNextFork env) (fun _ => Inv env {e with armed := true})
      (fun _ => Inv env e) := by
  refine Meets.get fun w h => ?_
  have hbpf : w.launch.bpfOpen=true := (congrArg Launch.bpfOpen h.launch).trans hopen
  rw [hbpf]
  have hall : Meets (Inv env e) (do
      request env .armNextFork
      Stage.modify fun w => {w with armed := true})
      (fun _ => Inv env {e with armed := true}) (fun _ => Inv env e) := by
    refine Meets.bind (request_keeps env e fun h => Request.noConfusion h) fun _ => ?_
    exact fun w h => { h with armed := fun _ => .inl rfl }
  exact hall w h

theorem disarmNextFork_meets (hopen : e.launch.bpfOpen=true) :
    Meets (Inv env {e with armed := true}) (disarmNextFork env)
      (fun _ => Inv env {e with armed := false}) (fun _ => Inv env {e with armed := false}) := by
  refine Meets.get fun w h => ?_
  have hbpf : w.launch.bpfOpen=true := (congrArg Launch.bpfOpen h.launch).trans hopen
  rw [hbpf]
  have hall : Meets (Inv env {e with armed := true}) (do
      request env .disarmNextFork
      Stage.modify fun w => {w with armed := false})
      (fun _ => Inv env {e with armed := false}) (fun _ => Inv env {e with armed := false}) := by
    refine Meets.bind ((request_meets env _ fun h => Request.noConfusion h).mono (fun _ h => h)
      (fun _ _ h => h) fun _ w h => { h.1 with armed := fun _ => .inr h.2 }) fun _ => ?_
    exact fun w h => { h with armed := fun harmed => absurd harmed Bool.false_ne_true }
  exact hall w h

/-- A command that was told to end. -/
def aborted (t : Target) : Target :=
  if t.abortRequested then t
  else {t with abortRequested := true, kills := t.kills+1, waited := true}

/-- The command is ended once. -/
theorem abort_meets :
    Meets (Inv env e) (abort env) (fun _ => Inv env {e with target := e.target.map aborted})
      (fun _ => Inv env {e with target := e.target.map aborted}) := by
  refine Meets.get fun w h => ?_
  rw [h.target]
  cases htarget : e.target with
  | none => exact { h with target := h.target.trans htarget }
  | some t =>
    dsimp only
    rw [Option.map_some,aborted]
    by_cases hdone : t.abortRequested=true
    · rw [if_pos hdone,if_pos hdone]
      exact { h with target := h.target.trans htarget }
    · rw [if_neg hdone,if_neg hdone]
      set first : Target := {t with abortRequested := true, kills := t.kills+1} with hfirst
      have hall : Meets (Inv env e) (do
          modifyTarget fun t => {t with abortRequested := true, kills := t.kills+1}
          (request env .kill).also (modifyTarget fun t => {t with waited := true}))
          (fun _ => Inv env {e with target := some {first with waited := true}})
          (fun _ => Inv env {e with target := some {first with waited := true}}) := by
        have hstart : Meets (Inv env e)
            (modifyTarget fun t => {t with abortRequested := true, kills := t.kills+1})
            (fun _ => Inv env {e with target := some first})
            (fun _ => Inv env {e with target := some {first with waited := true}}) := by
          intro w h
          refine { h with target := ?_ }
          change w.target.map _=_
          rw [h.target,htarget]
          rfl
        refine hstart.bind fun _ => ?_
        refine Meets.also (request_keeps env _ fun h => Request.noConfusion h) ?_
        exact fun w h => { h with target := congrArg (Option.map _) h.target }
      exact hall w h

/-- A command that the launch is done with. -/
def Done (target : Option Target) : Prop :=
  ∀ t, target=some t → t.abortRequested=true ∧ t.kills=1 ∧ t.waited=true

/-- A command that runs. -/
def Running (t : Target) : Prop := t.abortRequested=false ∧ t.kills=0

theorem done_aborted {t : Target} (h : Running t) : Done ((some t).map aborted) := by
  intro other hother
  have hsame : aborted t=other := Option.some.inj hother
  rw [←hsame,aborted,h.1,if_neg Bool.false_ne_true]
  exact ⟨rfl,congrArg (·+1) h.2,rfl⟩

theorem Done.map {target : Option Target} (h : Done target) : target.map aborted=target := by
  cases target with
  | none => rfl
  | some t => rw [Option.map_some,aborted,if_pos (h t rfl).1]

/-- What a failed bootstrap leaves: nothing of its own is in the maps, the fork is not armed and
the command has ended. -/
def Left (env : Env) (e : Expected) (w : World) : Prop :=
  ∃ target, Inv env {e with target := target} w ∧ Done target

theorem abortTraceTarget_meets (hopen : e.launch.bpfOpen=true) {t : Target}
    (htarget : e.target=some t) (hrunning : Running t) (pid : ℕ) (hpid : 0 < pid) :
    Meets (Inv env (e.with [UInt32.ofNat pid])) (abortTraceTarget env true pid)
      (fun _ => Left env e) (fun _ => Left env e) := by
  rw [abortTraceTarget,if_pos hpid]
  refine Meets.also (clearFilterPids_meets hopen [UInt32.ofNat pid]) ?_
  have hleft (w : World) (h : Inv env {e with target := e.target.map aborted} w) :
      Left env e w := by
    refine ⟨_,h,?_⟩
    rw [htarget]
    exact done_aborted hrunning
  exact abort_meets.mono (fun _ h => h) (fun _ w h => hleft w h) fun _ w h => hleft w h

/-- A started command runs and may be in the maps. -/
theorem startTraceCmd_meets (hopen : e.launch.bpfOpen=true) (harmed : e.armed=false)
    (htarget : e.target=none) :
    Meets (Inv env e) (startTraceCmd env)
      (fun pid w => pid=env.startedPID ∧
        Inv env {e.with [UInt32.ofNat pid] with target := some {pid := pid}} w)
      (fun _ => Left env e) := by
  have hdone : Done e.target := by
    rw [htarget]
    exact fun t ht => absurd ht.symm (Option.some_ne_none t)
  have hleft (w : World) (h : Inv env e w) : Left env e w := ⟨e.target,h,hdone⟩
  have hdisarmed : ({e with armed := false} : Expected)=e := by
    rw [←harmed]
  set t : Target := {pid := env.startedPID} with ht
  set u := UInt32.ofNat env.startedPID with hu
  have hrunning : Running t := ⟨rfl,rfl⟩
  have hdisarm : Meets (Inv env {e with armed := true}) (disarmNextFork env)
      (fun _ => Inv env e) (fun _ => Inv env e) := by
    have h := @disarmNextFork_meets env _ hopen
    rw [hdisarmed] at h
    exact h
  have hdisarmTarget : Meets (Inv env {e.with [u] with armed := true, target := some t})
      (disarmNextFork env) (fun _ => Inv env {e.with [u] with target := some t})
      (fun _ => Inv env {e.with [u] with target := some t}) := by
    have h := @disarmNextFork_meets env {e.with [u] with target := some t} hopen
    have hback : ({e.with [u] with target := some t, armed := false} : Expected)=
        {e.with [u] with target := some t} := by
      rw [←harmed]
      rfl
    rw [hback] at h
    exact h
  have habort : Meets (Inv env {e.with [u] with target := some t})
      (abortTraceTarget env true env.startedPID) (fun _ => Left env e) (fun _ => Left env e) :=
    abortTraceTarget_meets (e := {e with target := some t}) hopen rfl hrunning env.startedPID
      env.startedPID_pos
  rw [startTraceCmd]
  refine Meets.bind ((request_keeps env e fun h => Request.noConfusion h).mono (fun _ h => h)
    (fun _ _ h => h) fun _ => hleft) fun _ => ?_
  refine Meets.bind ((request_keeps env e fun h => Request.noConfusion h).mono (fun _ h => h)
    (fun _ _ h => h) fun _ => hleft) fun _ => ?_
  refine Meets.bind ((armNextFork_meets hopen).mono (fun _ h => h) (fun _ _ h => h)
    fun _ => hleft) fun _ => ?_
  refine Meets.bind (Meets.rollback (request_keeps env _ fun h => Request.noConfusion h)
    fun _ => hdisarm.mono (fun _ h => h) (fun _ => hleft) fun _ => hleft) fun _ => ?_
  refine Meets.bind (Q := fun _ => Inv env {e with armed := true, target := some t})
    (fun w h => { h with target := rfl }) fun _ => ?_
  refine Meets.bind (Meets.rollback (addFilterPID_meets u hopen)
    fun _ => Meets.also hdisarmTarget habort) fun _ => ?_
  refine Meets.bind (Meets.rollback hdisarmTarget fun _ => habort) fun _ => ?_
  exact fun w h => ⟨rfl,h⟩

end Command

section Attach

variable {env : Env} {e : Expected}

theorem obtain_meets {R : List Cause → World → Prop} :
    Meets (Inv env e) obtain (fun id => Inv env {e with held := id::e.held}) R := by
  intro w h
  have haccounts := h.accounts.obtain 1
  exact { h with accounts := haccounts }

theorem close_meets (id : ℕ) {r : Request} (hr : r≠.runSession) :
    Meets (Inv env {e with held := id::e.held}) (close env id r) (fun _ => Inv env e)
      (fun _ => Inv env e) := by
  refine Meets.bind (Q := fun _ => Inv env e) (fun w h => ?_) fun _ => request_keeps env e hr
  have haccounts : Accounts w.ledger ([id] ++ e.held) [] := h.accounts
  exact { h with accounts := haccounts.attempt (List.Perm.refl [id]) }

theorem openIdentity_meets {pid : ℕ} (hpid : 0 < pid) :
    Meets (Inv env e) (openIdentity env pid) (fun id => Inv env {e with held := id::e.held})
      (fun _ => Inv env e) := by
  rw [openIdentity,if_neg hpid.ne']
  exact Meets.bind (request_keeps env e fun h => Request.noConfusion h) fun _ => obtain_meets

/-- A failure of one attach takes all the processes attached so far out of the maps. -/
theorem attachToPid_meets (hopen : e.launch.bpfOpen=true) (attached : List UInt32) {pid : ℕ}
    (hpid : 0 < pid) :
    Meets (Inv env (e.with attached)) (attachToPid env attached pid)
      (fun _ => Inv env (e.with (attached ++ [UInt32.ofNat pid]))) (fun _ => Inv env e) := by
  set u := UInt32.ofNat pid with hu
  have hsub (l : List UInt32) : [u] ++ (attached ++ l)⊆attached ++ [u] ++ l := by
    intro other hother
    simp only [List.mem_append] at hother ⊢
    tauto
  have hundo (id : ℕ) : Meets (Inv env {e.with (attached ++ [u]) with held := id::e.held})
      ((closeIdentity env id).also (clearFilterPids env (attached ++ [u])))
      (fun _ => Inv env e) (fun _ => Inv env e) :=
    Meets.also (close_meets (e := e.with (attached ++ [u])) id fun h => Request.noConfusion h)
      (clearFilterPids_meets hopen _)
  have hadd (id : ℕ) : Meets (Inv env {e.with attached with held := id::e.held})
      (addFilterPID env u) (fun _ => Inv env {e.with (attached ++ [u]) with held := id::e.held})
      (fun _ => Inv env {e.with (attached ++ [u]) with held := id::e.held}) :=
    (addFilterPID_meets (e := {e.with attached with held := id::e.held}) u hopen).mono
      (fun _ h => h) (fun _ _ h => h.widen (hsub _) (hsub _)) fun _ _ h =>
        h.widen (hsub _) (hsub _)
  have hrequest (id : ℕ) {r : Request} (hr : r≠.runSession) :
      Meets (Inv env {e.with (attached ++ [u]) with held := id::e.held})
        ((request env r).rollback
          ((closeIdentity env id).also (clearFilterPids env (attached ++ [u]))))
        (fun _ => Inv env {e.with (attached ++ [u]) with held := id::e.held})
        (fun _ => Inv env e) :=
    Meets.rollback (request_keeps env _ hr) fun _ => hundo id
  rw [attachToPid]
  refine Meets.bind (Meets.rollback (openIdentity_meets hpid)
    fun _ => clearFilterPids_meets hopen attached) fun id => ?_
  refine Meets.bind (Meets.rollback (hadd id) fun _ => hundo id) fun _ => ?_
  refine Meets.bind (hrequest id fun h => Request.noConfusion h) fun _ => ?_
  refine Meets.bind (hrequest id fun h => Request.noConfusion h) fun _ => ?_
  exact Meets.rollback
    (close_meets (e := e.with (attached ++ [u])) id fun h => Request.noConfusion h)
    fun _ => clearFilterPids_meets hopen _

theorem attachLoop_meets (hopen : e.launch.bpfOpen=true) {pids : List ℕ}
    (hpids : ∀ pid∈pids, 0 < pid) (attached : List UInt32) :
    Meets (Inv env (e.with attached)) (attachLoop env attached pids)
      (fun _ => Inv env (e.with (attached ++ pids.map UInt32.ofNat))) (fun _ => Inv env e) := by
  induction pids generalizing attached with
  | nil =>
    rw [List.map_nil,List.append_nil]
    exact fun _ h => h
  | cons pid pids ih =>
    have hrest := ih (fun other hother => hpids other (List.mem_cons_of_mem _ hother))
      (attached ++ [UInt32.ofNat pid])
    rw [List.append_assoc] at hrest
    rw [attachLoop]
    exact Meets.bind (attachToPid_meets hopen attached (hpids pid List.mem_cons_self))
      fun _ => hrest

theorem attachToPids_meets (hopen : e.launch.bpfOpen=true) {pids : List ℕ}
    (hpids : ∀ pid∈pids, 0 < pid) :
    Meets (Inv env e) (attachToPids env pids)
      (fun first w => first=pids.headD 0 ∧ Inv env (e.with (pids.map UInt32.ofNat)) w)
      (fun _ => Inv env e) :=
  Meets.bind (attachLoop_meets hopen hpids []) fun _ _ h => ⟨rfl,h⟩

/-- The process of the command, when there is one. -/
def TraceTargetConfig.commandPID (env : Env) (targets : TraceTargetConfig) : ℕ :=
  if targets.hasCommand then env.startedPID else 0

/-- The process of the command in the maps, when there is one. -/
def TraceTargetConfig.commandPIDs (env : Env) (targets : TraceTargetConfig) : List UInt32 :=
  if targets.hasCommand then [UInt32.ofNat env.startedPID] else []

/-- Targets that may be in the maps. -/
def TraceTargetConfig.pids (env : Env) (targets : TraceTargetConfig) : List UInt32 :=
  targets.commandPIDs env ++ targets.attachPIDs.map UInt32.ofNat

/-- The first target. -/
def TraceTargetConfig.first (env : Env) (targets : TraceTargetConfig) : ℕ :=
  if targets.hasCommand then env.startedPID else targets.attachPIDs.headD 0

/-- The started command. -/
def TraceTargetConfig.target (env : Env) (targets : TraceTargetConfig) : Option Target :=
  if targets.hasCommand then some {pid := env.startedPID} else none

/-- Expect targets in the maps and the command. -/
def Expected.started (e : Expected) (env : Env) (targets : TraceTargetConfig)
    (pids : List UInt32) : Expected :=
  { e with filter := pids ++ e.filter, roots := pids ++ e.roots, target := targets.target env }

theorem startCommand_meets (targets : TraceTargetConfig) (hopen : e.launch.bpfOpen=true)
    (harmed : e.armed=false) (htarget : e.target=none) :
    Meets (Inv env e) (startCommand env targets)
      (fun pid w => pid=targets.commandPID env ∧
        Inv env (e.started env targets (targets.commandPIDs env)) w)
      (fun _ => Left env e) := by
  rw [startCommand,Expected.started,TraceTargetConfig.target,TraceTargetConfig.commandPID,
    TraceTargetConfig.commandPIDs]
  cases targets.hasCommand with
  | true =>
    refine (startTraceCmd_meets hopen harmed htarget).mono (fun _ h => h) ?_ fun _ _ h => h
    rintro _ w ⟨rfl,h⟩
    exact ⟨rfl,h⟩
  | false =>
    intro w h
    refine ⟨rfl,?_⟩
    change Inv env {e with target := none} w
    rw [←htarget]
    exact h

/-- Whatever was started is ended. -/
theorem abortCommand_meets (targets : TraceTargetConfig) (hopen : e.launch.bpfOpen=true) :
    Meets (Inv env (e.started env targets (targets.commandPIDs env)))
      (abortTraceTarget env targets.hasCommand (targets.commandPID env))
      (fun _ => Left env e) (fun _ => Left env e) := by
  rw [Expected.started,TraceTargetConfig.target,TraceTargetConfig.commandPID,
    TraceTargetConfig.commandPIDs]
  cases targets.hasCommand with
  | true =>
    exact abortTraceTarget_meets (e := {e with target := some {pid := env.startedPID}}) hopen rfl
      ⟨rfl,rfl⟩ env.startedPID env.startedPID_pos
  | false =>
    intro w h
    exact ⟨none,h,fun t ht => absurd ht.symm (Option.some_ne_none t)⟩

/-- A bootstrap starts the command and attaches to all the processes, or leaves nothing. -/
theorem resolve_meets (targets : TraceTargetConfig) (hopen : e.launch.bpfOpen=true)
    (harmed : e.armed=false) (htarget : e.target=none) :
    Meets (Inv env e) (resolve env targets)
      (fun out w => out=(targets.hasCommand,targets.first env) ∧
        Inv env (e.started env targets (targets.pids env)) w)
      (fun _ => Left env e) := by
  rw [resolve]
  refine Meets.bind (startCommand_meets targets hopen harmed htarget) fun targetPID => ?_
  by_cases hattach : targets.attachPIDs=[]
  · rw [if_pos hattach]
    rintro w ⟨rfl,h⟩
    have hfirst : targets.commandPID env=targets.first env := by
      rw [TraceTargetConfig.commandPID,TraceTargetConfig.first,hattach]
      rfl
    refine ⟨congrArg (Prod.mk _) hfirst,?_⟩
    rw [TraceTargetConfig.pids,hattach,List.map_nil,List.append_nil]
    exact h
  · rw [if_neg hattach]
    rintro w ⟨rfl,h⟩
    have hattachAll : Meets
        (Inv env (e.started env targets (targets.commandPIDs env)))
        (do
          let firstPID ← (attachToPids env targets.attachPIDs).rollback
            (abortTraceTarget env targets.hasCommand (targets.commandPID env))
          pure (targets.hasCommand,
            if targets.commandPID env=0 then firstPID else targets.commandPID env))
        (fun out w => out=(targets.hasCommand,targets.first env) ∧
          Inv env (e.started env targets (targets.pids env)) w)
        (fun _ => Left env e) := by
      refine Meets.bind (Meets.rollback
        (attachToPids_meets (e := e.started env targets (targets.commandPIDs env)) hopen
          targets.attachPIDs_pos)
        fun _ => abortCommand_meets targets hopen) fun firstPID => ?_
      rintro w ⟨rfl,h⟩
      refine ⟨congrArg (Prod.mk _) ?_,?_⟩
      · rw [TraceTargetConfig.commandPID,TraceTargetConfig.first]
        cases targets.hasCommand with
        | true => exact if_neg env.startedPID_pos.ne'
        | false => rfl
      · refine h.widen ?_ ?_ <;>
        · intro pid hpid
          change pid∈_ ++ (_ ++ _) at hpid
          change pid∈(_ ++ _) ++ _
          rw [List.mem_append,List.mem_append] at hpid ⊢
          tauto
    exact hattachAll w h

end Attach

section Files

variable {env : Env} {e : Expected}

/-- Filling an empty place adds its content. -/
theorem filterMap_set_perm {files : List (Option ℕ)} {i : ℕ} (id : ℕ)
    (hempty : files[i]?=some none) :
    ((files.set i (some id)).filterMap (fun file => file)).Perm
      (id::files.filterMap fun file => file) := by
  induction files generalizing i with
  | nil => exact absurd hempty.symm (Option.some_ne_none _)
  | cons file files ih =>
    cases i with
    | zero =>
      have hfile : file=none := Option.some.inj hempty
      rw [hfile]
      exact List.Perm.refl _
    | succ i =>
      have hrest := ih hempty
      rw [List.set_cons_succ]
      cases file with
      | none => exact hrest
      | some other => exact (hrest.cons other).trans (List.Perm.swap id other _)

/-- Expect duplicated descriptors. -/
def Expected.withFiles (e : Expected) (files : List (Option ℕ)) : Expected :=
  { e with
    held := (files.filterMap fun file => file) ++ e.held
    launch := {e.launch with inherited := files} }

/-- Resources are held in whatever order. -/
theorem Inv.perm {w : World} (h : Inv env e w) (held : List ℕ) (hheld : held.Perm e.held) :
    Inv env {e with held := held} w :=
  { h with accounts := h.accounts.perm hheld (List.Perm.refl _) }

theorem closeFiles_meets (files : List (Option ℕ)) :
    Meets (Inv env (e.withFiles files)) (closeFiles env)
      (fun _ => Inv env {e with launch := {e.launch with inherited := files}})
      (fun _ => Inv env {e with launch := {e.launch with inherited := files}}) := by
  refine Meets.get fun w h => ?_
  have hfiles : w.launch.inherited=files := congrArg Launch.inherited h.launch
  rw [hfiles]
  have hall := meets_alsoEach (f := fun id => close env id (.closeFile id))
    (I := fun ids => Inv env
      {e with held := ids ++ e.held, launch := {e.launch with inherited := files}})
    (fun id rest => close_meets (e := {e with
      held := rest ++ e.held, launch := {e.launch with inherited := files}}) id
      fun h => Request.noConfusion h) (files.filterMap fun file => file)
  exact hall w h

theorem setInherited_meets (files files' : List (Option ℕ)) {R : List Cause → World → Prop} :
    Meets (Inv env {e with launch := {e.launch with inherited := files}}) (setInherited files')
      (fun _ => Inv env {e with launch := {e.launch with inherited := files'}}) R := by
  intro w h
  refine { h with launch := ?_ }
  change {w.launch with inherited := files'}=_
  rw [h.launch]

/-- Places of descriptors that are yet to be duplicated are empty. -/
def Places (files : List (Option ℕ)) (fds : List ℕ) : Prop :=
  fds.Nodup ∧ ∀ fd∈fds, 3 ≤ fd ∧ files[fd-3]?=some none

theorem Places.duplicate {files : List (Option ℕ)} {fd : ℕ} {fds : List ℕ}
    (h : Places files (fd::fds)) (id : ℕ) : Places (files.set (fd-3) (some id)) fds := by
  obtain ⟨hnodup,hempty⟩ := h
  obtain ⟨hnotin,hrest⟩ := List.nodup_cons.mp hnodup
  refine ⟨hrest,fun other hother => ?_⟩
  obtain ⟨hlow,hnone⟩ := hempty other (List.mem_cons_of_mem _ hother)
  refine ⟨hlow,?_⟩
  have hne : fd-3≠other-3 := by
    have hfd := (hempty fd List.mem_cons_self).1
    intro heq
    refine hnotin ?_
    rw [show fd=other by omega]
    exact hother
  rw [List.getElem?_set_ne hne]
  exact hnone

theorem duplicateInheritedFile_meets (fd : ℕ) (fds : List ℕ) :
    Meets (fun w => ∃ files, Inv env (e.withFiles files) w ∧ Places files (fd::fds))
      (duplicateInheritedFile env fd)
      (fun _ w => ∃ files, Inv env (e.withFiles files) w ∧ Places files fds)
      (fun _ w => ∃ files, Inv env (e.withFiles files) w) := by
  rintro w ⟨files,h,hplaces⟩
  have hall : Meets (Inv env (e.withFiles files)) (duplicateInheritedFile env fd)
      (fun _ w => ∃ files, Inv env (e.withFiles files) w ∧ Places files fds)
      (fun _ w => ∃ files, Inv env (e.withFiles files) w) := by
    rw [duplicateInheritedFile]
    refine Meets.bind ((request_keeps env _ fun h => Request.noConfusion h).mono (fun _ h => h)
      (fun _ _ h => h) fun _ _ h => ⟨files,h⟩) fun _ => ?_
    refine Meets.bind obtain_meets fun id => ?_
    intro w h
    refine ⟨files.set (fd-3) (some id),?_,hplaces.duplicate id⟩
    have hheld := h.perm (((files.set (fd-3) (some id)).filterMap fun file => file) ++ e.held)
      ((filterMap_set_perm id (hplaces.2 fd List.mem_cons_self).2).append_right _)
    refine { hheld with launch := ?_ }
    change {w.launch with inherited := w.launch.inherited.set (fd-3) (some id)}=_
    rw [h.launch]
    rfl
  exact hall w h

theorem le_foldl_max (fds : List ℕ) (start : ℕ) :
    start ≤ fds.foldl max start ∧ ∀ fd∈fds, fd ≤ fds.foldl max start := by
  induction fds generalizing start with
  | nil => exact ⟨le_rfl,fun fd hfd => absurd hfd List.not_mem_nil⟩
  | cons first rest ih =>
    obtain ⟨hstart,hrest⟩ := ih (max start first)
    refine ⟨(le_max_left _ _).trans hstart,fun fd hfd => ?_⟩
    rcases List.mem_cons.mp hfd with rfl | hin
    · exact (le_max_right _ _).trans hstart
    · exact hrest fd hin

/-- The descriptors are duplicated, or nothing is left of the attempt. -/
theorem collectInheritedFilesFromFDs_meets (hinherited : e.launch.inherited=[]) {fds : List ℕ}
    (hnodup : fds.Nodup) (hlow : ∀ fd∈fds, 3 ≤ fd) :
    Meets (Inv env e) (collectInheritedFilesFromFDs env fds)
      (fun _ w => ∃ files, Inv env (e.withFiles files) w) (fun _ => Inv env e) := by
  have hempty : ({e with launch := {e.launch with inherited := []}} : Expected)=e := by
    rw [←hinherited]
  have hstart : e.withFiles []=e := hempty
  have hany : ¬fds.any (· < 3)=true := by
    rw [List.any_eq_true]
    rintro ⟨fd,hfd,hless⟩
    exact absurd (of_decide_eq_true hless) (Nat.not_lt.mpr (hlow fd hfd))
  rw [collectInheritedFilesFromFDs]
  by_cases hnone : fds=[]
  · rw [if_pos hnone]
    refine fun w h => ⟨[],?_⟩
    rw [hstart]
    exact h
  · rw [if_neg hnone,if_neg hany]
    set files : List (Option ℕ) := List.replicate (fds.foldl max 0-2) none with hfiles
    have hplaces : Places files fds := by
      refine ⟨hnodup,fun fd hfd => ⟨hlow fd hfd,?_⟩⟩
      have hmax : fd ≤ fds.foldl max 0 := (le_foldl_max fds 0).2 fd hfd
      have hthree := hlow fd hfd
      rw [hfiles,List.getElem?_replicate,if_pos (by omega)]
    have hset : Meets (Inv env e) (setInherited files) (fun _ w =>
        ∃ files, Inv env (e.withFiles files) w ∧ Places files fds) (fun _ => Inv env e) := by
      refine fun w h => ⟨files,?_,hplaces⟩
      have hheld : files.filterMap (fun file => file)=[] := by
        rw [hfiles,List.filterMap_replicate]
      rw [Expected.withFiles,hheld]
      exact setInherited_meets (R := fun _ _ => True) e.launch.inherited files w h
    refine hset.bind fun _ => ?_
    refine (Meets.rollback (meets_forEach (I := fun fds w =>
      ∃ files, Inv env (e.withFiles files) w ∧ Places files fds)
      (fun fd rest => duplicateInheritedFile_meets fd rest) fds) (fun _ => ?_)).mono
      (fun _ h => h) (fun _ _ h => h.imp fun _ h => h.1) fun _ _ h => h
    rintro w ⟨files,h⟩
    have hundo : Meets (Inv env (e.withFiles files)) ((closeFiles env).also (setInherited []))
        (fun _ => Inv env e) (fun _ => Inv env e) := by
      refine Meets.also (closeFiles_meets files) ?_
      have hclear := @setInherited_meets env e files []
        fun _ => Inv env {e with launch := {e.launch with inherited := []}}
      rw [hempty] at hclear
      exact hclear
    exact hundo w h

theorem nodup_openFileDescriptors (env : Env) : (openFileDescriptors env).Nodup :=
  List.Nodup.filter _ List.nodup_range'

theorem three_le_openFileDescriptors {fd : ℕ} (h : fd∈openFileDescriptors env) : 3 ≤ fd :=
  (List.mem_range'_1.mp (List.mem_of_mem_filter h)).1

theorem collectInheritedFiles_meets (hinherited : e.launch.inherited=[]) :
    Meets (Inv env e) (collectInheritedFiles env)
      (fun _ w => ∃ files, Inv env (e.withFiles files) w) (fun _ => Inv env e) := by
  rw [collectInheritedFiles]
  refine Meets.bind (request_keeps env e fun h => Request.noConfusion h) fun _ => ?_
  refine Meets.bind (request_keeps env e fun h => Request.noConfusion h) fun _ => ?_
  exact collectInheritedFilesFromFDs_meets hinherited
    ((nodup_openFileDescriptors env).filter _)
    fun fd hfd => three_le_openFileDescriptors (List.mem_of_mem_filter hfd)

end Files

end StraceGo.TargetBootstrap

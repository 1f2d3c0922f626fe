import StraceGo.TargetBootstrap

/-!
# The launch of a trace

A launch sets up the event programs, their reader, the targets and the output, hands
them to a session and runs it. Whatever it has obtained is registered in a plan of
cleanup steps, which closes them the other way round. Any request may fail, and the
launch then ends early. It still closes each resource once, reports every failure,
and leaves the targets alone only when the session has run to its end.
-/

namespace StraceGo.TraceLaunch

open FallibleStages ResourceLedger TargetBootstrap

section Handoffs

variable (env : Env)

/-- Change what the launch has built up. -/
def modifyLaunch (f : Launch → Launch) : LaunchStage Unit :=
  Stage.modify fun w => {w with launch := f w.launch}

/-- Add a process that is not there yet. -/
def appendPID (pids : List UInt32) (pid : ℕ) : List UInt32 :=
  if pid=0 then pids
  else if UInt32.ofNat pid∈pids then pids
  else pids ++ [UInt32.ofNat pid]

/-- Processes of the targets. -/
def traceTargetPIDs (attachPIDs : List ℕ) (targetPID : ℕ) : List UInt32 :=
  attachPIDs.foldl appendPID (appendPID [] targetPID)

/-- Own the targets. -/
def newTraceTargetHandoff (targets : TraceTargetConfig) (hasTarget : Bool) (targetPID : ℕ) :
    LaunchStage Unit :=
  modifyLaunch fun l =>
    { l with
      targetOwned := true
      hasTarget := hasTarget
      filterPIDs := traceTargetPIDs targets.attachPIDs targetPID }

/-- Give the targets away. -/
def transferTarget : LaunchStage Unit := do
  let w ← Stage.get
  if !w.launch.targetOwned then refuse "trace target ownership already transferred"
  else modifyLaunch fun l => {l with targetOwned := false}

/-- Take the targets out of the maps and end the command, unless they were given away. -/
def closeTargetHandoff : LaunchStage Unit := do
  let w ← Stage.get
  if !w.launch.targetOwned then pure ()
  else
    modifyLaunch fun l => {l with targetOwned := false}
    (clearFilterPids env w.launch.filterPIDs).also (terminateTraceTarget env w.launch.hasTarget)

/-- Close the output. -/
def closeOutput (id : ℕ) : LaunchStage Unit := close env id .closeOutput

/-- Own the output. -/
def newTraceOutputHandoff : LaunchStage Unit := modifyLaunch fun l => {l with outputOwned := true}

/-- Give the output away. -/
def transferOutput : LaunchStage Unit := do
  let w ← Stage.get
  if !w.launch.outputOwned then refuse "trace output ownership already transferred"
  else modifyLaunch fun l => {l with outputOwned := false}

/-- Close the output, unless it was given away. -/
def closeOutputHandoff (id : ℕ) : LaunchStage Unit := do
  let w ← Stage.get
  if !w.launch.outputOwned then pure ()
  else
    modifyLaunch fun l => {l with outputOwned := false}
    closeOutput env id

/-- Close the duplicated descriptors and forget them. -/
def closeTargetBootstrap : LaunchStage Unit := (closeFiles env).also (setInherited [])

/-- Close the maps and programs, which can no longer be reached. -/
def closeBPFRuntime (id : ℕ) : LaunchStage Unit := do
  modifyLaunch fun l => {l with bpfOpen := false}
  close env id .closeBPF

end Handoffs

section Plan

variable (env : Env)

/-- Register a cleanup step. -/
def addCleanup (step : CleanupStep) : LaunchStage Unit := do
  let w ← Stage.get
  if w.launch.planClosed then refuse "trace cleanup plan is already closed"
  else modifyLaunch fun l => {l with plan := l.plan ++ [step]}

/-- Carry out a cleanup step. -/
def closeStep : CleanupStep → LaunchStage Unit
  | .bpfRuntime id => closeBPFRuntime env id
  | .ringbufReader id => close env id .closeReader
  | .targetBootstrap => closeTargetBootstrap env
  | .targetHandoff => closeTargetHandoff env
  | .output id => closeOutputHandoff env id

/-- Carry out the registered steps, the last one first. -/
def closePlan : LaunchStage Unit := do
  let w ← Stage.get
  if w.launch.planClosed then pure ()
  else
    modifyLaunch fun l => {l with plan := [], planClosed := true}
    Stage.alsoEach (closeStep env) w.launch.plan.reverse

end Plan

section Run

variable (env : Env)

/-- Run the session, which closes the output at its end. -/
def runSession (output : ℕ) : LaunchStage Unit := close env output .runSession

/-- Set up the event programs. -/
def setupBPF : LaunchStage Unit := do
  request env .setupBPF
  let id ← obtain
  modifyLaunch fun l => {l with bpfOpen := true}
  addCleanup (.bpfRuntime id)

/-- Set up the reader. -/
def newEventReader : LaunchStage Unit := do
  request env .newEventReader
  let id ← obtain
  addCleanup (.ringbufReader id)

/-- Duplicate the descriptors that the command inherits. -/
def newTraceTargetBootstrap : LaunchStage Unit := do
  collectInheritedFiles env
  addCleanup .targetBootstrap

/-- Start the targets and own them. -/
def ownTargets (targets : TraceTargetConfig) : LaunchStage Unit := do
  let out ← resolve env targets
  newTraceTargetHandoff targets out.1 out.2
  addCleanup .targetHandoff

/-- Set up the output and own it. -/
def ownOutput : LaunchStage ℕ := do
  request env .setupOutput
  let id ← obtain
  (request env .selectPID).rollback (closeOutput env id)
  newTraceOutputHandoff
  addCleanup (.output id)
  pure id

/-- The launch in front of its cleanup. -/
def launchSession (targets : TraceTargetConfig) : LaunchStage Unit := do
  setupBPF env
  newEventReader env
  request env .configureBPF
  newTraceTargetBootstrap env
  ownTargets env targets
  let output ← ownOutput env
  request env .composeSession
  transferOutput
  runSession env output
  transferTarget

/-- Launch a trace. -/
def runTraceSession (targets : TraceTargetConfig) : LaunchStage Unit := do
  request env .prepareTargets
  (launchSession env targets).also (closePlan env)

end Run

section Closing

variable {env : Env} {targets : TraceTargetConfig} {e : Expected}

/-- The targets are left alone when the session has run to its end, and only then. -/
def Settled (env : Env) (targets : TraceTargetConfig) (e : Expected) : Prop :=
  e.armed=false ∧
    ((e.phase=.ran ∧ e.target=targets.target env) ∨
      (e.phase≠.ran ∧ e.filter=[] ∧ e.roots=[] ∧ Done e.target))

/-- The handoff covers the targets. -/
structure Owned (env : Env) (e : Expected) : Prop where
  /-- The maps can be reached. -/
  bpfOpen : e.launch.bpfOpen=true
  /-- The session has not run to its end. -/
  phase : e.phase≠.ran
  /-- The processes in the filter are taken out. -/
  filter : e.filter⊆e.launch.filterPIDs
  /-- The processes in the roots are taken out. -/
  roots : e.roots⊆e.launch.filterPIDs
  /-- A command runs. -/
  running : ∀ t, e.target=some t → Running t ∧ e.launch.hasTarget=true

/-- What is expected behind a handoff that was closed. -/
def Expected.ended (e : Expected) : Expected :=
  { e with
    filter := []
    roots := []
    target := if e.launch.hasTarget then e.target.map aborted else e.target
    launch := {e.launch with targetOwned := false} }

/-- Cleanup steps close what is held and settle the targets. -/
def Closable (env : Env) (targets : TraceTargetConfig) (e : Expected) : List CleanupStep → Prop
  | [] => e.held=[] ∧ Settled env targets e
  | .bpfRuntime id::rest =>
    rest=[] ∧ e.held=[id] ∧ Settled env targets e
  | .ringbufReader id::rest =>
    ∃ held, e.held=id::held ∧ Closable env targets {e with held := held} rest
  | .targetBootstrap::rest =>
    ∃ held, e.held=(e.launch.inherited.filterMap fun file => file) ++ held ∧
      Closable env targets {e with held := held, launch := {e.launch with inherited := []}} rest
  | .targetHandoff::rest =>
    (e.launch.targetOwned=true ∧ Owned env e ∧ Closable env targets (Expected.ended e) rest) ∨
      (e.launch.targetOwned=false ∧ Closable env targets e rest)
  | .output id::rest =>
    (e.launch.outputOwned=true ∧ ∃ held, e.held=id::held ∧
      Closable env targets
        {e with held := held, launch := {e.launch with outputOwned := false}} rest) ∨
    (e.launch.outputOwned=false ∧ Closable env targets e rest)

/-- Nothing is held, and the targets are settled. -/
def Closed (env : Env) (targets : TraceTargetConfig) (w : World) : Prop :=
  ∃ e, Inv env e w ∧ e.held=[] ∧ Settled env targets e

theorem modifyLaunch_meets (f : Launch → Launch) {R : List Cause → World → Prop} :
    Meets (Inv env e) (modifyLaunch f) (fun _ => Inv env {e with launch := f e.launch}) R :=
  fun _ h => { h with launch := congrArg f h.launch }

theorem closeBPFRuntime_meets {id : ℕ} (hheld : e.held=[id]) :
    Meets (Inv env e) (closeBPFRuntime env id)
      (fun _ => Inv env {e with held := [], launch := {e.launch with bpfOpen := false}})
      (fun _ => Inv env {e with held := [], launch := {e.launch with bpfOpen := false}}) := by
  refine Meets.bind (modifyLaunch_meets _) fun _ => ?_
  rw [hheld]
  exact close_meets (e := {e with held := [], launch := {e.launch with bpfOpen := false}}) id
    fun h => Request.noConfusion h

theorem closeTargetBootstrap_meets {held : List ℕ}
    (hheld : e.held=(e.launch.inherited.filterMap fun file => file) ++ held) :
    Meets (Inv env e) (closeTargetBootstrap env)
      (fun _ => Inv env {e with held := held, launch := {e.launch with inherited := []}})
      (fun _ => Inv env {e with held := held, launch := {e.launch with inherited := []}}) := by
  have hfiles := @closeFiles_meets env {e with held := held} e.launch.inherited
  have hsame : Expected.withFiles {e with held := held} e.launch.inherited=e := by
    rw [Expected.withFiles,←hheld]
  rw [hsame] at hfiles
  refine Meets.also hfiles ?_
  exact setInherited_meets (e := {e with held := held}) e.launch.inherited []

theorem clearOwned_meets (howned : Owned env e) :
    Meets (Inv env {e with launch := {e.launch with targetOwned := false}})
      (clearFilterPids env e.launch.filterPIDs)
      (fun _ => Inv env {e with
        filter := [], roots := [], launch := {e.launch with targetOwned := false}})
      (fun _ => Inv env {e with
        filter := [], roots := [], launch := {e.launch with targetOwned := false}}) := by
  have hclear := @clearFilterPids_meets env {e with
    filter := [], roots := [], launch := {e.launch with targetOwned := false}} howned.bpfOpen
    e.launch.filterPIDs
  refine hclear.mono (fun w h => ?_) (fun _ _ h => h) fun _ _ h => h
  rw [Expected.with,List.append_nil]
  exact h.widen howned.filter howned.roots

/-- A closed handoff leaves nothing of the targets. -/
theorem closeTargetHandoff_meets (htarget : e.launch.targetOwned=true) (howned : Owned env e) :
    Meets (Inv env e) (closeTargetHandoff env) (fun _ => Inv env (Expected.ended e))
      (fun _ => Inv env (Expected.ended e)) := by
  refine Meets.get fun w h => ?_
  have hlaunch : w.launch=e.launch := h.launch
  rw [hlaunch,htarget]
  have hall : Meets (Inv env e) (do
      modifyLaunch fun l => {l with targetOwned := false}
      (clearFilterPids env e.launch.filterPIDs).also
        (terminateTraceTarget env e.launch.hasTarget))
      (fun _ => Inv env (Expected.ended e)) (fun _ => Inv env (Expected.ended e)) := by
    refine Meets.bind (modifyLaunch_meets _) fun _ => ?_
    refine Meets.also (clearOwned_meets howned) ?_
    rw [terminateTraceTarget,Expected.ended]
    cases e.launch.hasTarget with
    | true => exact abort_meets
    | false => exact fun _ h => h
  exact hall w h

theorem closeOutputHandoff_meets {id : ℕ} {held : List ℕ} (houtput : e.launch.outputOwned=true)
    (hheld : e.held=id::held) :
    Meets (Inv env e) (closeOutputHandoff env id)
      (fun _ => Inv env {e with held := held, launch := {e.launch with outputOwned := false}})
      (fun _ => Inv env {e with held := held, launch := {e.launch with outputOwned := false}}) := by
  refine Meets.get fun w h => ?_
  have howned : w.launch.outputOwned=true := (congrArg Launch.outputOwned h.launch).trans houtput
  rw [howned]
  have hall : Meets (Inv env e) (do
      modifyLaunch fun l => {l with outputOwned := false}
      closeOutput env id)
      (fun _ => Inv env {e with held := held, launch := {e.launch with outputOwned := false}})
      (fun _ => Inv env
        {e with held := held, launch := {e.launch with outputOwned := false}}) := by
    refine Meets.bind (modifyLaunch_meets _) fun _ => ?_
    rw [hheld]
    exact close_meets
      (e := {e with held := held, launch := {e.launch with outputOwned := false}}) id
      fun h => Request.noConfusion h
  exact hall w h

/-- A handoff that gave away what it owned does nothing. -/
theorem closeTargetHandoff_away (htarget : e.launch.targetOwned=false) :
    Meets (Inv env e) (closeTargetHandoff env) (fun _ => Inv env e) (fun _ => Inv env e) := by
  refine Meets.get fun w h => ?_
  have howned : w.launch.targetOwned=false :=
    (congrArg Launch.targetOwned h.launch).trans htarget
  rw [howned]
  exact h

theorem closeOutputHandoff_away {id : ℕ} (houtput : e.launch.outputOwned=false) :
    Meets (Inv env e) (closeOutputHandoff env id) (fun _ => Inv env e) (fun _ => Inv env e) := by
  refine Meets.get fun w h => ?_
  have howned : w.launch.outputOwned=false :=
    (congrArg Launch.outputOwned h.launch).trans houtput
  rw [howned]
  exact h

/-- The steps of a plan close everything. -/
theorem alsoEach_closeStep_meets (steps : List CleanupStep)
    (hsteps : Closable env targets e steps) :
    Meets (Inv env e) (Stage.alsoEach (closeStep env) steps) (fun _ => Closed env targets)
      (fun _ => Closed env targets) := by
  induction steps generalizing e with
  | nil => exact fun w h => ⟨e,h,hsteps⟩
  | cons step rest ih =>
    rw [Stage.alsoEach]
    cases step with
    | bpfRuntime id =>
      obtain ⟨rfl,hheld,hsettled⟩ := hsteps
      refine Meets.also (closeBPFRuntime_meets hheld) (ih ?_)
      exact ⟨rfl,hsettled⟩
    | ringbufReader id =>
      obtain ⟨held,hheld,hrest⟩ := hsteps
      have hclose : Meets (Inv env e) (close env id .closeReader)
          (fun _ => Inv env {e with held := held}) (fun _ => Inv env {e with held := held}) := by
        have h := @close_meets env {e with held := held} id .closeReader
          fun h => Request.noConfusion h
        have hsame : ({e with held := id::held} : Expected)=e := by rw [←hheld]
        rw [hsame] at h
        exact h
      exact Meets.also hclose (ih hrest)
    | targetBootstrap =>
      obtain ⟨held,hheld,hrest⟩ := hsteps
      exact Meets.also (closeTargetBootstrap_meets hheld) (ih hrest)
    | targetHandoff =>
      rcases hsteps with ⟨htarget,howned,hrest⟩ | ⟨htarget,hrest⟩
      · exact Meets.also (closeTargetHandoff_meets htarget howned) (ih hrest)
      · exact Meets.also (closeTargetHandoff_away htarget) (ih hrest)
    | output id =>
      rcases hsteps with ⟨houtput,held,hheld,hrest⟩ | ⟨houtput,hrest⟩
      · exact Meets.also (closeOutputHandoff_meets houtput hheld) (ih hrest)
      · exact Meets.also (closeOutputHandoff_away houtput) (ih hrest)

end Closing

section Building

variable {env : Env} {targets : TraceTargetConfig} {e : Expected}

/-- What is expected while the plan is carried out. -/
def planned (e : Expected) : Expected :=
  {e with launch := {e.launch with plan := [], planClosed := true}}

/-- The plan of a launch that ends here closes everything. -/
def Exit (env : Env) (targets : TraceTargetConfig) (w : World) : Prop :=
  ∃ e, Inv env e w ∧ e.launch.planClosed=false ∧
    Closable env targets (planned e) e.launch.plan.reverse

/-- The plan closes everything. -/
theorem closePlan_meets :
    Meets (Exit env targets) (closePlan env) (fun _ => Closed env targets)
      (fun _ => Closed env targets) := by
  refine Meets.get fun w h => ?_
  obtain ⟨e,hinv,hclosed,hsteps⟩ := h
  have hlaunch : w.launch=e.launch := hinv.launch
  rw [hlaunch,hclosed]
  have hall : Meets (Inv env e) (do
      modifyLaunch fun l => {l with plan := [], planClosed := true}
      Stage.alsoEach (closeStep env) e.launch.plan.reverse)
      (fun _ => Closed env targets) (fun _ => Closed env targets) := by
    refine Meets.bind (modifyLaunch_meets _) fun _ => ?_
    exact alsoEach_closeStep_meets (e := planned e) _ hsteps
  exact hall w hinv

theorem addCleanup_meets (step : CleanupStep) (hclosed : e.launch.planClosed=false)
    {R : List Cause → World → Prop} :
    Meets (Inv env e) (addCleanup step)
      (fun _ => Inv env {e with launch := {e.launch with plan := e.launch.plan ++ [step]}})
      R := by
  refine Meets.get fun w h => ?_
  have hopen : w.launch.planClosed=false := (congrArg Launch.planClosed h.launch).trans hclosed
  rw [hopen]
  exact modifyLaunch_meets (fun l => {l with plan := l.plan ++ [step]}) w h

/-- The event programs are set up. -/
def builtBPF (bpf : ℕ) : Expected where
  held := [bpf]
  launch := {bpfOpen := true, plan := [.bpfRuntime bpf]}

/-- And the reader. -/
def builtReader (bpf reader : ℕ) : Expected where
  held := [reader,bpf]
  launch := {bpfOpen := true, plan := [.bpfRuntime bpf,.ringbufReader reader]}

/-- And the inherited descriptors. -/
def builtFiles (bpf reader : ℕ) (files : List (Option ℕ)) : Expected where
  held := (files.filterMap fun file => file) ++ [reader,bpf]
  launch :=
    { bpfOpen := true
      inherited := files
      plan := [.bpfRuntime bpf,.ringbufReader reader,.targetBootstrap] }

/-- And the targets. -/
def builtTargets (env : Env) (targets : TraceTargetConfig) (bpf reader : ℕ)
    (files : List (Option ℕ)) : Expected where
  held := (files.filterMap fun file => file) ++ [reader,bpf]
  filter := targets.pids env
  roots := targets.pids env
  target := targets.target env
  launch :=
    { bpfOpen := true
      inherited := files
      targetOwned := true
      hasTarget := targets.hasCommand
      filterPIDs := traceTargetPIDs targets.attachPIDs (targets.first env)
      plan := [.bpfRuntime bpf,.ringbufReader reader,.targetBootstrap,.targetHandoff] }

/-- And the output, which the session may own by now, as it may the targets; the session may have
run. -/
def builtOutput (env : Env) (targets : TraceTargetConfig) (bpf reader : ℕ)
    (files : List (Option ℕ)) (output : ℕ) (held : List ℕ) (phase : Phase)
    (outputOwned targetOwned : Bool) : Expected where
  phase := phase
  held := held ++ ((files.filterMap fun file => file) ++ [reader,bpf])
  filter := targets.pids env
  roots := targets.pids env
  target := targets.target env
  launch :=
    { bpfOpen := true
      inherited := files
      targetOwned := targetOwned
      hasTarget := targets.hasCommand
      filterPIDs := traceTargetPIDs targets.attachPIDs (targets.first env)
      outputOwned := outputOwned
      plan := [.bpfRuntime bpf,.ringbufReader reader,.targetBootstrap,.targetHandoff,
        .output output] }

theorem appendPID_subset (pids : List UInt32) (pid : ℕ) : pids⊆appendPID pids pid := by
  rw [appendPID]
  split_ifs
  · exact List.Subset.refl _
  · exact List.Subset.refl _
  · exact List.subset_append_left _ _

theorem mem_appendPID (pids : List UInt32) {pid : ℕ} (hpid : 0 < pid) :
    UInt32.ofNat pid∈appendPID pids pid := by
  rw [appendPID,if_neg hpid.ne']
  split_ifs with hmem
  · exact hmem
  · exact List.mem_append_right _ (List.mem_singleton_self _)

/-- Every target is among the processes of the targets. -/
theorem foldl_appendPID (attachPIDs : List ℕ) (pids : List UInt32) :
    pids⊆attachPIDs.foldl appendPID pids ∧
      ∀ pid∈attachPIDs, 0 < pid → UInt32.ofNat pid∈attachPIDs.foldl appendPID pids := by
  induction attachPIDs generalizing pids with
  | nil => exact ⟨List.Subset.refl _,fun pid hpid => absurd hpid List.not_mem_nil⟩
  | cons first rest ih =>
    obtain ⟨hsub,hrest⟩ := ih (appendPID pids first)
    refine ⟨List.Subset.trans (appendPID_subset pids first) hsub,fun pid hpid hpos => ?_⟩
    rcases List.mem_cons.mp hpid with rfl | hin
    · exact hsub (mem_appendPID pids hpos)
    · exact hrest pid hin hpos

theorem pids_subset_traceTargetPIDs (env : Env) (targets : TraceTargetConfig) :
    targets.pids env⊆traceTargetPIDs targets.attachPIDs (targets.first env) := by
  obtain ⟨hsub,hattach⟩ := foldl_appendPID targets.attachPIDs (appendPID [] (targets.first env))
  intro pid hpid
  rw [TraceTargetConfig.pids,TraceTargetConfig.commandPIDs] at hpid
  rcases List.mem_append.mp hpid with hcommand | hattached
  · by_cases hhas : targets.hasCommand=true
    · rw [if_pos hhas] at hcommand
      rw [List.mem_singleton.mp hcommand]
      refine hsub ?_
      rw [TraceTargetConfig.first,if_pos hhas]
      exact mem_appendPID [] env.startedPID_pos
    · rw [if_neg hhas] at hcommand
      exact absurd hcommand List.not_mem_nil
  · obtain ⟨one,hone,rfl⟩ := List.mem_map.mp hattached
    exact hattach one hone (targets.attachPIDs_pos one hone)

theorem done_none : Done none := fun t ht => absurd ht.symm (Option.some_ne_none t)

/-- The command runs when there is one. -/
theorem running_target (env : Env) (targets : TraceTargetConfig) {t : Target}
    (ht : targets.target env=some t) : Running t ∧ targets.hasCommand=true := by
  rw [TraceTargetConfig.target] at ht
  by_cases hhas : targets.hasCommand=true
  · rw [if_pos hhas] at ht
    rw [←Option.some.inj ht]
    exact ⟨⟨rfl,rfl⟩,hhas⟩
  · rw [if_neg hhas] at ht
    exact absurd ht.symm (Option.some_ne_none t)

/-- The command of a closed handoff has ended. -/
theorem done_ended (env : Env) (targets : TraceTargetConfig) :
    Done (if targets.hasCommand then (targets.target env).map aborted
      else targets.target env) := by
  rw [TraceTargetConfig.target]
  cases targets.hasCommand with
  | true => exact done_aborted ⟨rfl,rfl⟩
  | false => exact done_none

/-- Nothing was started yet. -/
theorem settled_before (env : Env) (targets : TraceTargetConfig) (held : List ℕ)
    {target : Option Target} (htarget : Done target) (launch : Launch) :
    Settled env targets {held := held, target := target, launch := launch} :=
  ⟨rfl,.inr ⟨fun h => Phase.noConfusion h,rfl,rfl,htarget⟩⟩

theorem exit_builtBPF (bpf : ℕ) (w : World) (h : Inv env (builtBPF bpf) w) :
    Exit env targets w :=
  ⟨_,h,rfl,rfl,rfl,settled_before env targets _ done_none _⟩

theorem exit_builtReader (bpf reader : ℕ) (w : World) (h : Inv env (builtReader bpf reader) w) :
    Exit env targets w :=
  ⟨_,h,rfl,[bpf],rfl,rfl,rfl,settled_before env targets _ done_none _⟩

theorem exit_builtFiles (bpf reader : ℕ) (files : List (Option ℕ)) (w : World)
    (h : Left env (builtFiles bpf reader files) w) : Exit env targets w := by
  obtain ⟨target,hinv,hdone⟩ := h
  exact ⟨_,hinv,rfl,[reader,bpf],rfl,[bpf],rfl,rfl,rfl,settled_before env targets _ hdone _⟩

theorem exit_builtTargets (bpf reader : ℕ) (files : List (Option ℕ)) (w : World)
    (h : Inv env (builtTargets env targets bpf reader files) w) : Exit env targets w := by
  refine ⟨_,h,rfl,.inl ⟨rfl,?_,[reader,bpf],rfl,[bpf],rfl,rfl,rfl,?_⟩⟩
  · exact ⟨rfl,fun h => Phase.noConfusion h,pids_subset_traceTargetPIDs env targets,
      pids_subset_traceTargetPIDs env targets,fun t ht => running_target env targets ht⟩
  · exact settled_before env targets _ (done_ended env targets) _

/-- The session has not run to its end. -/
theorem exit_builtOutput (bpf reader : ℕ) (files : List (Option ℕ)) (output : ℕ) {phase : Phase}
    (hphase : phase≠.ran) (outputOwned : Bool) (w : World)
    (h : Inv env (builtOutput env targets bpf reader files output
      (if outputOwned then [output] else []) phase outputOwned true) w) : Exit env targets w := by
  have howned : Owned env (planned (builtOutput env targets bpf reader files output [] phase false
      true)) :=
    ⟨rfl,hphase,pids_subset_traceTargetPIDs env targets,pids_subset_traceTargetPIDs env targets,
      fun t ht => running_target env targets ht⟩
  have hsettled (held : List ℕ) (launch : Launch) : Settled env targets
      { phase := phase, held := held, launch := launch
        target := if targets.hasCommand then (targets.target env).map aborted
          else targets.target env } :=
    ⟨rfl,.inr ⟨hphase,rfl,rfl,done_ended env targets⟩⟩
  refine ⟨_,h,rfl,?_⟩
  cases outputOwned with
  | true =>
    exact .inl ⟨rfl,_,rfl,.inl ⟨rfl,howned,[reader,bpf],rfl,[bpf],rfl,rfl,rfl,hsettled _ _⟩⟩
  | false =>
    exact .inr ⟨rfl,.inl ⟨rfl,howned,[reader,bpf],rfl,[bpf],rfl,rfl,rfl,hsettled _ _⟩⟩

/-- The session has run to its end and owns the targets. -/
theorem exit_ran (bpf reader : ℕ) (files : List (Option ℕ)) (output : ℕ) (w : World)
    (h : Inv env (builtOutput env targets bpf reader files output [] .ran false false) w) :
    Exit env targets w :=
  ⟨_,h,rfl,.inr ⟨rfl,.inr ⟨rfl,[reader,bpf],rfl,[bpf],rfl,rfl,rfl,rfl,.inl ⟨rfl,rfl⟩⟩⟩⟩

theorem setupBPF_meets :
    Meets (Inv env {}) (setupBPF env) (fun _ w => ∃ bpf, Inv env (builtBPF bpf) w)
      (fun _ => Exit env targets) := by
  refine Meets.bind ((request_keeps env {} fun h => Request.noConfusion h).mono (fun _ h => h)
    (fun _ _ h => h) fun _ w h =>
      ⟨{},h,rfl,rfl,settled_before env targets [] done_none _⟩) fun _ => ?_
  refine Meets.bind obtain_meets fun bpf => ?_
  refine Meets.bind (modifyLaunch_meets _) fun _ => ?_
  exact (addCleanup_meets _ rfl).mono (fun _ h => h) (fun _ _ h => ⟨bpf,h⟩) fun _ _ h => h

theorem newEventReader_meets (bpf : ℕ) :
    Meets (Inv env (builtBPF bpf)) (newEventReader env)
      (fun _ w => ∃ reader, Inv env (builtReader bpf reader) w) (fun _ => Exit env targets) := by
  refine Meets.bind ((request_keeps env _ fun h => Request.noConfusion h).mono (fun _ h => h)
    (fun _ _ h => h) fun _ => exit_builtBPF bpf) fun _ => ?_
  refine Meets.bind obtain_meets fun reader => ?_
  exact (addCleanup_meets _ rfl).mono (fun _ h => h) (fun _ _ h => ⟨reader,h⟩) fun _ _ h => h

theorem newTraceTargetBootstrap_meets (bpf reader : ℕ) :
    Meets (Inv env (builtReader bpf reader)) (newTraceTargetBootstrap env)
      (fun _ w => ∃ files, Inv env (builtFiles bpf reader files) w)
      (fun _ => Exit env targets) := by
  refine Meets.bind ((collectInheritedFiles_meets rfl).mono (fun _ h => h) (fun _ _ h => h)
    fun _ => exit_builtReader bpf reader) fun _ => ?_
  rintro w ⟨files,h⟩
  have hadd := @addCleanup_meets env ((builtReader bpf reader).withFiles files) .targetBootstrap
    rfl fun _ => Exit env targets
  exact (hadd w h).mono (fun _ _ h => ⟨files,h⟩) fun _ _ h => h

theorem ownTargets_meets (bpf reader : ℕ) (files : List (Option ℕ)) :
    Meets (Inv env (builtFiles bpf reader files)) (ownTargets env targets)
      (fun _ => Inv env (builtTargets env targets bpf reader files))
      (fun _ => Exit env targets) := by
  refine Meets.bind ((resolve_meets targets rfl rfl rfl).mono (fun _ h => h) (fun _ _ h => h)
    fun _ => exit_builtFiles bpf reader files) fun out => ?_
  rintro w ⟨rfl,h⟩
  have hown : Meets (Inv env ((builtFiles bpf reader files).started env targets
      (targets.pids env))) (do
      newTraceTargetHandoff targets targets.hasCommand (targets.first env)
      addCleanup .targetHandoff)
      (fun _ => Inv env (builtTargets env targets bpf reader files))
      (fun _ => Exit env targets) := by
    refine Meets.bind (modifyLaunch_meets _) fun _ => ?_
    refine (addCleanup_meets _ rfl).mono (fun _ h => h) (fun _ _ h => ?_) fun _ _ h => h
    refine h.widen ?_ ?_ <;>
    · intro pid hpid
      change pid∈targets.pids env ++ [] at hpid
      rw [List.append_nil] at hpid
      exact hpid
  exact hown w h

theorem ownOutput_meets (bpf reader : ℕ) (files : List (Option ℕ)) :
    Meets (Inv env (builtTargets env targets bpf reader files)) (ownOutput env)
      (fun output => Inv env
        (builtOutput env targets bpf reader files output [output] .before true true))
      (fun _ => Exit env targets) := by
  have hexit := @exit_builtTargets env targets bpf reader files
  refine Meets.bind ((request_keeps env _ fun h => Request.noConfusion h).mono (fun _ h => h)
    (fun _ _ h => h) fun _ => hexit) fun _ => ?_
  refine Meets.bind obtain_meets fun output => ?_
  refine Meets.bind (Meets.rollback (request_keeps env _ fun h => Request.noConfusion h)
    fun _ => (close_meets (e := builtTargets env targets bpf reader files) output
      fun h => Request.noConfusion h).mono (fun _ h => h) (fun _ => hexit) fun _ => hexit)
    fun _ => ?_
  refine Meets.bind (modifyLaunch_meets _) fun _ => ?_
  exact Meets.bind (addCleanup_meets _ rfl) fun _ _ h => h

/-- The session closes the output, whether it runs to its end or not. -/
theorem runSession_meets (output : ℕ) (hphase : e.phase=.before) :
    Meets (Inv env {e with held := output::e.held}) (runSession env output)
      (fun _ => Inv env {e with phase := .ran}) (fun _ => Inv env {e with phase := .failed}) := by
  intro w h
  have hbefore := h.phase
  rw [hphase] at hbefore
  have haccounts : Accounts w.ledger ([output] ++ e.held) [] := h.accounts
  have hclosed := haccounts.attempt (List.Perm.refl [output])
  change Ends _ _ (request env .runSession {w with ledger := w.ledger.attempt [output]})
  rw [request]
  dsimp only
  by_cases hfails : env.fails w.history.length=true
  · rw [if_pos hfails]
    have hlog : w.log ++ [Cause.failed .runSession]=
        reported env.fails (w.history ++ [.runSession]) := by
      rw [reported_append,if_pos hfails,h.logged]
    exact ⟨hlog,hclosed,fun pid hpid => (h.filter pid hpid).imp_right (List.mem_append_left _),
      fun pid hpid => (h.roots pid hpid).imp_right (List.mem_append_left _),
      fun harmed => (h.armed harmed).imp_right (List.mem_append_left _),h.target,h.launch,
      List.mem_append_right _ (List.mem_singleton_self _)⟩
  · rw [if_neg hfails]
    have hlog : w.log=reported env.fails (w.history ++ [.runSession]) := by
      rw [reported_append,if_neg hfails,List.append_nil,h.logged]
    exact ⟨hlog,hclosed,h.filter,h.roots,h.armed,h.target,h.launch,
      List.mem_append_right _ (List.mem_singleton_self _),hbefore.2⟩

theorem transferOutput_meets (houtput : e.launch.outputOwned=true) {R : List Cause → World → Prop} :
    Meets (Inv env e) transferOutput
      (fun _ => Inv env {e with launch := {e.launch with outputOwned := false}}) R := by
  refine Meets.get fun w h => ?_
  have howned : w.launch.outputOwned=true := (congrArg Launch.outputOwned h.launch).trans houtput
  rw [howned]
  exact modifyLaunch_meets (fun l => {l with outputOwned := false}) w h

theorem transferTarget_meets (htarget : e.launch.targetOwned=true)
    {R : List Cause → World → Prop} :
    Meets (Inv env e) transferTarget
      (fun _ => Inv env {e with launch := {e.launch with targetOwned := false}}) R := by
  refine Meets.get fun w h => ?_
  have howned : w.launch.targetOwned=true := (congrArg Launch.targetOwned h.launch).trans htarget
  rw [howned]
  exact modifyLaunch_meets (fun l => {l with targetOwned := false}) w h

/-- Wherever the launch ends, its plan closes everything. -/
theorem launchSession_meets :
    Meets (Inv env {}) (launchSession env targets) (fun _ => Exit env targets)
      (fun _ => Exit env targets) := by
  refine Meets.bind setupBPF_meets fun _ => ?_
  rintro w ⟨bpf,h⟩
  refine Meets.bind (newEventReader_meets bpf) (fun _ => ?_) w h
  rintro w ⟨reader,h⟩
  refine Meets.bind ((request_keeps env _ fun h => Request.noConfusion h).mono (fun _ h => h)
    (fun _ _ h => h) fun _ => exit_builtReader bpf reader) (fun _ => ?_) w h
  refine Meets.bind (newTraceTargetBootstrap_meets bpf reader) fun _ => ?_
  rintro w ⟨files,h⟩
  refine Meets.bind (ownTargets_meets bpf reader files) (fun _ => ?_) w h
  refine Meets.bind (ownOutput_meets bpf reader files) fun output => ?_
  refine Meets.bind ((request_keeps env _ fun h => Request.noConfusion h).mono (fun _ h => h)
    (fun _ _ h => h) fun _ =>
      exit_builtOutput bpf reader files output (fun h => Phase.noConfusion h) true) fun _ => ?_
  refine Meets.bind (transferOutput_meets rfl) fun _ => ?_
  refine Meets.bind ((runSession_meets (e := builtOutput env targets bpf reader files output []
    .before false true) output rfl).mono (fun _ h => h) (fun _ _ h => h) fun _ =>
      exit_builtOutput bpf reader files output (fun h => Phase.noConfusion h) false) fun _ => ?_
  exact (transferTarget_meets rfl).mono (fun _ h => h)
    (fun _ => exit_ran bpf reader files output) fun _ _ h => h

theorem runTraceSession_meets :
    Meets (Inv env {}) (runTraceSession env targets) (fun _ => Closed env targets)
      (fun _ => Closed env targets) := by
  refine Meets.bind ((request_keeps env {} fun h => Request.noConfusion h).mono (fun _ h => h)
    (fun _ _ h => h) fun _ _ h =>
      ⟨{},h,rfl,settled_before env targets [] done_none _⟩) fun _ => ?_
  exact Meets.also launchSession_meets closePlan_meets

end Building

section Reporting

variable (env : Env)

/-- Every part of a launch reports what comes up in it. -/
abbrev Logs {A : Type} (x : LaunchStage A) : Prop := Reports World.log x

theorem request_logs (r : Request) : Logs (request env r) := by
  intro w
  rw [request]
  by_cases hfails : env.fails w.history.length=true
  · rw [if_pos hfails]
    refine ⟨rfl,fun causes h => ?_⟩
    rw [←Except.error.inj h]
    exact List.cons_ne_nil _ _
  · rw [if_neg hfails]
    exact ⟨(List.append_nil _).symm,fun _ h => absurd h ok_ne_error⟩

theorem refuse_logs (text : String) : Logs (refuse text) := by
  refine fun w => ⟨rfl,fun causes h => ?_⟩
  rw [←Except.error.inj h]
  exact List.cons_ne_nil _ _

theorem modify_logs {f : World → World} (hf : ∀ w, (f w).log=w.log) :
    Logs (Stage.modify f : LaunchStage Unit) := reports_modify hf

theorem mapRequest_logs (r : Request) (f : FilterMaps → FilterMaps) :
    Logs (mapRequest env r f) :=
  (request_logs env r).bind fun _ => modify_logs fun _ => rfl

theorem deleteFilterPID_logs (pid : UInt32) : Logs (deleteFilterPID env pid) := by
  refine Reports.get fun w => ?_
  split_ifs
  · exact reports_ret ()
  · exact (mapRequest_logs env _ _).also ((mapRequest_logs env _ _).also (mapRequest_logs env _ _))

theorem clearFilterPids_logs (pids : List UInt32) : Logs (clearFilterPids env pids) :=
  reports_alsoEach (deleteFilterPID_logs env) pids

theorem addFilterPID_logs (pid : UInt32) : Logs (addFilterPID env pid) := by
  refine Reports.get fun w => ?_
  split_ifs
  · exact refuse_logs _
  · exact (mapRequest_logs env _ _).bind fun _ => (mapRequest_logs env _ _).bind fun _ =>
      (mapRequest_logs env _ _).rollback (mapRequest_logs env _ _)

theorem armRequest_logs (r : Request) (armed : Bool) : Logs (armRequest env r armed) := by
  refine Reports.get fun w => ?_
  split_ifs
  · exact refuse_logs _
  · exact (request_logs env r).bind fun _ => modify_logs fun _ => rfl

theorem abort_logs : Logs (abort env) := by
  refine Reports.get fun w => ?_
  cases w.target with
  | none => exact reports_ret ()
  | some t =>
    dsimp only
    split_ifs
    · exact reports_ret ()
    · exact Reports.bind (modify_logs fun _ => rfl) fun _ =>
        Reports.also (request_logs env .kill) (modify_logs fun _ => rfl)

theorem terminateTraceTarget_logs (hasTarget : Bool) :
    Logs (terminateTraceTarget env hasTarget) := by
  rw [terminateTraceTarget]
  split_ifs
  · exact abort_logs env
  · exact reports_ret ()

theorem abortTraceTarget_logs (hasTarget : Bool) (targetPID : ℕ) :
    Logs (abortTraceTarget env hasTarget targetPID) := by
  refine Reports.also ?_ (terminateTraceTarget_logs env hasTarget)
  split_ifs
  · exact clearFilterPids_logs env _
  · exact reports_ret ()

theorem startTraceCmd_logs : Logs (startTraceCmd env) := by
  refine (request_logs env _).bind fun _ => (request_logs env _).bind fun _ =>
    (armRequest_logs env _ _).bind fun _ =>
    ((request_logs env _).rollback (armRequest_logs env _ _)).bind fun _ =>
    Reports.bind (modify_logs fun _ => rfl) fun _ => ?_
  exact ((addFilterPID_logs env _).rollback
      ((armRequest_logs env _ _).also (abortTraceTarget_logs env _ _))).bind fun _ =>
    ((armRequest_logs env _ _).rollback (abortTraceTarget_logs env _ _)).bind fun _ =>
    reports_ret _

theorem obtain_logs : Logs obtain :=
  Reports.get fun _ => Reports.bind (modify_logs fun _ => rfl) fun _ => reports_ret _

theorem close_logs (id : ℕ) (r : Request) : Logs (close env id r) :=
  Reports.bind (modify_logs fun _ => rfl) fun _ => request_logs env r

theorem attachToPid_logs (attached : List UInt32) (pid : ℕ) :
    Logs (attachToPid env attached pid) := by
  have hopen : Logs (openIdentity env pid) := by
    rw [openIdentity]
    split_ifs
    · exact (refuse_logs _).bind fun _ => (request_logs env _).bind fun _ => obtain_logs
    · exact (request_logs env _).bind fun _ => obtain_logs
  have hundo (id : ℕ) (pids : List UInt32) :
      Logs ((closeIdentity env id).also (clearFilterPids env pids)) :=
    (close_logs env id _).also (clearFilterPids_logs env pids)
  refine (hopen.rollback (clearFilterPids_logs env _)).bind fun id => ?_
  exact ((addFilterPID_logs env _).rollback (hundo id _)).bind fun _ =>
    ((request_logs env _).rollback (hundo id _)).bind fun _ =>
    ((request_logs env _).rollback (hundo id _)).bind fun _ =>
    (close_logs env id _).rollback (clearFilterPids_logs env _)

theorem attachToPids_logs (pids : List ℕ) : Logs (attachToPids env pids) := by
  have hloop (pids : List ℕ) (attached : List UInt32) : Logs (attachLoop env attached pids) := by
    induction pids generalizing attached with
    | nil => exact reports_ret ()
    | cons pid pids ih => exact (attachToPid_logs env attached pid).bind fun _ => ih _
  exact (hloop pids []).bind fun _ => reports_ret _

theorem resolve_logs (targets : TraceTargetConfig) : Logs (resolve env targets) := by
  have hstart : Logs (startCommand env targets) := by
    rw [startCommand]
    split_ifs
    · exact startTraceCmd_logs env
    · exact reports_ret 0
  refine hstart.bind fun targetPID => ?_
  by_cases hattach : targets.attachPIDs=[]
  · rw [if_pos hattach]
    exact reports_ret _
  · rw [if_neg hattach]
    exact ((attachToPids_logs env _).rollback (abortTraceTarget_logs env _ _)).bind fun _ =>
      reports_ret _

theorem closeFiles_logs : Logs (closeFiles env) :=
  Reports.get fun _ => reports_alsoEach (fun id => close_logs env id _) _

theorem collectInheritedFiles_logs : Logs (collectInheritedFiles env) := by
  refine (request_logs env _).bind fun _ => (request_logs env _).bind fun _ => ?_
  rw [collectInheritedFilesFromFDs]
  split_ifs
  · exact reports_ret ()
  · exact refuse_logs _
  · refine Reports.bind (modify_logs fun _ => rfl) fun _ => Reports.rollback
      (reports_forEach ?_ _) (Reports.also (closeFiles_logs env) (modify_logs fun _ => rfl))
    exact fun fd => Reports.bind (request_logs env _) fun _ => Reports.bind obtain_logs fun _ =>
      modify_logs fun _ => rfl

theorem modifyLaunch_logs (f : Launch → Launch) : Logs (modifyLaunch f) := modify_logs fun _ => rfl

theorem addCleanup_logs (step : CleanupStep) : Logs (addCleanup step) := by
  refine Reports.get fun w => ?_
  split_ifs
  · exact refuse_logs _
  · exact modifyLaunch_logs _

theorem closeStep_logs (step : CleanupStep) : Logs (closeStep env step) := by
  cases step with
  | bpfRuntime id => exact (modifyLaunch_logs _).bind fun _ => close_logs env id _
  | ringbufReader id => exact close_logs env id _
  | targetBootstrap => exact Reports.also (closeFiles_logs env) (modify_logs fun _ => rfl)
  | targetHandoff =>
    refine Reports.get fun w => ?_
    split_ifs
    · exact reports_ret ()
    · exact (modifyLaunch_logs _).bind fun _ =>
        (clearFilterPids_logs env _).also (terminateTraceTarget_logs env _)
  | output id =>
    refine Reports.get fun w => ?_
    split_ifs
    · exact reports_ret ()
    · exact (modifyLaunch_logs _).bind fun _ => close_logs env id _

theorem closePlan_logs : Logs (closePlan env) := by
  refine Reports.get fun w => ?_
  split_ifs
  · exact reports_ret ()
  · exact (modifyLaunch_logs _).bind fun _ => reports_alsoEach (closeStep_logs env) _

theorem launchSession_logs (targets : TraceTargetConfig) : Logs (launchSession env targets) := by
  have htransferTarget : Logs transferTarget := by
    refine Reports.get fun w => ?_
    split_ifs
    · exact refuse_logs _
    · exact modifyLaunch_logs _
  have htransferOutput : Logs transferOutput := by
    refine Reports.get fun w => ?_
    split_ifs
    · exact refuse_logs _
    · exact modifyLaunch_logs _
  have hbpf : Logs (setupBPF env) := (request_logs env _).bind fun _ => obtain_logs.bind fun _ =>
    (modifyLaunch_logs _).bind fun _ => addCleanup_logs _
  have hreader : Logs (newEventReader env) := (request_logs env _).bind fun _ =>
    obtain_logs.bind fun _ => addCleanup_logs _
  have hbootstrap : Logs (newTraceTargetBootstrap env) :=
    (collectInheritedFiles_logs env).bind fun _ => addCleanup_logs _
  have htargets : Logs (ownTargets env targets) := (resolve_logs env targets).bind fun _ =>
    (modifyLaunch_logs _).bind fun _ => addCleanup_logs _
  have houtput : Logs (ownOutput env) := (request_logs env _).bind fun _ =>
    obtain_logs.bind fun id =>
    ((request_logs env _).rollback (close_logs env id _)).bind fun _ =>
    (modifyLaunch_logs _).bind fun _ => (addCleanup_logs _).bind fun _ => reports_ret _
  exact hbpf.bind fun _ => hreader.bind fun _ => (request_logs env _).bind fun _ =>
    hbootstrap.bind fun _ => htargets.bind fun _ => houtput.bind fun output =>
    (request_logs env _).bind fun _ => htransferOutput.bind fun _ =>
    (close_logs env output _).bind fun _ => htransferTarget

theorem runTraceSession_logs (targets : TraceTargetConfig) :
    Logs (runTraceSession env targets) :=
  (request_logs env _).bind fun _ => (launchSession_logs env targets).also (closePlan_logs env)

end Reporting

section Ending

variable {env : Env} {targets : TraceTargetConfig} {e : Expected} {w : World}

/-- The session has run to its end. -/
def RanToEnd (w : World) : Prop := Phase.ran.Holds w.history w.log

/-- What a launch leaves. -/
structure CleanEnd (env : Env) (targets : TraceTargetConfig) (w : World) : Prop where
  /-- Every resource was closed once. -/
  closed : w.ledger.closes.Perm (List.range w.ledger.opened)
  /-- The targets are left to themselves behind a session that ran to its end. -/
  left : RanToEnd w → w.target=targets.target env
  /-- Otherwise no process is in the filter, unless taking it out failed. -/
  filter : ¬RanToEnd w → ∀ pid∈w.maps.filter, Cause.failed (.deleteFilter pid)∈w.log
  /-- Otherwise no process is in the roots, unless taking it out failed. -/
  roots : ¬RanToEnd w → ∀ pid∈w.maps.roots, Cause.failed (.deleteRoot pid)∈w.log
  /-- Otherwise a started command was killed once and waited for. -/
  ended : ¬RanToEnd w → Done w.target
  /-- No fork is put into the filter, unless disarming it failed. -/
  disarmed : w.armed=true → Cause.failed .disarmNextFork∈w.log

/-- A launch starts with nothing. -/
theorem inv_start (env : Env) : Inv env {} {} where
  logged := rfl
  accounts := accounts_empty
  filter := fun pid hpid => absurd hpid (Finset.notMem_empty pid)
  roots := fun pid hpid => absurd hpid (Finset.notMem_empty pid)
  armed := fun h => absurd h Bool.false_ne_true
  target := rfl
  launch := rfl
  phase := ⟨List.not_mem_nil,List.not_mem_nil⟩

theorem ranToEnd_iff (h : Inv env e w) : RanToEnd w ↔ e.phase=.ran := by
  have hphase := h.phase
  constructor
  · intro hran
    generalize e.phase=phase at hphase
    cases phase with
    | before => exact absurd hran.1 hphase.1
    | ran => rfl
    | failed => exact absurd hphase hran.2
  · intro hran
    rw [hran] at hphase
    exact hphase

theorem Closed.clean (h : Closed env targets w) : CleanEnd env targets w := by
  obtain ⟨e,hinv,hheld,harmed,hsettled⟩ := h
  have haccounts := hinv.accounts
  rw [hheld] at haccounts
  have hclosed : (w.ledger.closes ++ []).Perm (List.range w.ledger.opened) := haccounts
  rw [List.append_nil] at hclosed
  have hended (hran : ¬RanToEnd w) : e.filter=[] ∧ e.roots=[] ∧ Done e.target := by
    rw [ranToEnd_iff hinv] at hran
    rcases hsettled with ⟨hphase,_⟩ | ⟨_,hnone⟩
    · exact absurd hphase hran
    · exact hnone
  refine ⟨hclosed,fun hran => ?_,fun hran pid hpid => ?_,fun hran pid hpid => ?_,
    fun hran => ?_,fun h => ?_⟩
  · rw [ranToEnd_iff hinv] at hran
    rcases hsettled with ⟨_,htarget⟩ | ⟨hphase,_⟩
    · exact hinv.target.trans htarget
    · exact absurd hran hphase
  · refine (hinv.filter pid hpid).resolve_left ?_
    rw [(hended hran).1]
    exact List.not_mem_nil
  · refine (hinv.roots pid hpid).resolve_left ?_
    rw [(hended hran).2.1]
    exact List.not_mem_nil
  · rw [hinv.target]
    exact (hended hran).2.2
  · refine (hinv.armed h).resolve_left ?_
    rw [harmed]
    exact Bool.false_ne_true

theorem closed_runTraceSession (env : Env) (targets : TraceTargetConfig) :
    Closed env targets (runTraceSession env targets {}).2 := by
  have hends := @runTraceSession_meets env targets {} (inv_start env)
  generalize runTraceSession env targets {}=out at hends
  obtain ⟨out,w⟩ := out
  cases out with
  | ok _ => exact hends
  | error _ => exact hends

/-- Whatever fails, a launch reports exactly the requests that failed, in their order, closes
every resource once and leaves nothing of its targets unless the session ran to its end. -/
theorem launch_ends_clean (env : Env) (targets : TraceTargetConfig) :
    Stage.causesOf (runTraceSession env targets {}).1=
        reported env.fails (runTraceSession env targets {}).2.history ∧
      CleanEnd env targets (runTraceSession env targets {}).2 := by
  have hclosed := closed_runTraceSession env targets
  refine ⟨?_,hclosed.clean⟩
  have hlog := (runTraceSession_logs env targets {}).1
  obtain ⟨e,hinv,_⟩ := hclosed
  rw [←hinv.logged,hlog]
  rfl

end Ending

end StraceGo.TraceLaunch

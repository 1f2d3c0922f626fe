import StraceGo.BpfPendingState

/-!
# Enter programs and their tail-call chains

Each enter program reads the clock in its own prologue, emits the records of
its syscall family and saves the pending enter. The families with large
payloads go on by tail calls: every program of such a chain reads the clock
again and emits a further record, and none of them saves anything. The nested
descriptor paths are emitted as exit fragments stamped with yet another clock
reading.

Captured memory is data of the invocation, and so is the outcome of every tail
call, because a slot of the program array may be empty.
-/

namespace StraceGo.BpfEnterPrograms

open StraceGo.FiniteMaps StraceGo.EventEnvelope StraceGo.BpfRuntime StraceGo.BpfPendingState

section SyscallNumbers

/-- Number of `sendmsg`. -/
def sysSendmsg : Arch → UInt32
  | .amd64 => 46
  | .arm64 => 211

/-- Number of `recvmsg`. -/
def sysRecvmsg : Arch → UInt32
  | .amd64 => 47
  | .arm64 => 212

/-- Number of `sendmmsg`. -/
def sysSendmmsg : Arch → UInt32
  | .amd64 => 307
  | .arm64 => 269

/-- Number of `recvmmsg`. -/
def sysRecvmmsg : Arch → UInt32
  | .amd64 => 299
  | .arm64 => 243

/-- Number of `io_submit`. -/
def sysIoSubmit : Arch → UInt32
  | .amd64 => 209
  | .arm64 => 2

/-- Numbers of the asynchronous requests whose enter has a payload: `io_submit`, `io_cancel`,
`io_getevents` and `io_pgetevents`. -/
def isAioPayloadEnterSyscall (arch : Arch) (sysID : UInt32) : Bool :=
  sysID==sysIoSubmit arch ||
    match arch with
    | .amd64 => sysID==210 || sysID==208 || sysID==333
    | .arm64 => sysID==3 || sysID==4 || sysID==292

/-- Number of `select`, a placeholder where the architecture has none. -/
def sysSelect : Arch → UInt32
  | .amd64 => 23
  | .arm64 => 4294901801

/-- Numbers of `poll` and `ppoll`. -/
def isPollDirectSyscall (arch : Arch) (sysID : UInt32) : Bool :=
  match arch with
  | .amd64 => sysID==7 || sysID==271
  | .arm64 => sysID==4294901794 || sysID==73

/-- Numbers of `epoll_wait`, `epoll_pwait` and `epoll_pwait2`. -/
def isEpollWaitDirectSyscall (arch : Arch) (sysID : UInt32) : Bool :=
  match arch with
  | .amd64 => sysID==232 || sysID==281 || sysID==441
  | .arm64 => sysID==4294901772 || sysID==22 || sysID==441

/-- Vectored writes, whose buffers are captured at the enter. -/
def isIovecBaseEnterDirectSyscall (arch : Arch) (sysID : UInt32) : Bool :=
  match arch with
  | .amd64 => sysID==20 || sysID==296 || sysID==328 || sysID==278 || sysID==311
  | .arm64 => sysID==66 || sysID==70 || sysID==287 || sysID==75 || sysID==271

/-- The message-batch syscalls. -/
def isMmsgDirectSyscall (arch : Arch) (sysID : UInt32) : Bool :=
  sysID==sysSendmmsg arch || sysID==sysRecvmmsg arch

/-- Command of the `bpf` syscall that loads a program. -/
def bpfDirectProgLoad : UInt64 := 5

/-- Most nested descriptor paths captured for one syscall. -/
def fdPathNestedMax : ℕ := 4

end SyscallNumbers

/-- Arguments of a `sys_enter` tracepoint, with the memory the programs capture. -/
structure EnterContext where
  /-- Syscall number. -/
  sysID : UInt32
  /-- Raw arguments. -/
  args : SyscallArgs := Vector.replicate 6 0
  /-- Memory captured for each record of the chain. -/
  capture : ℕ → Capture := fun _ => {}
  /-- Whether each tail call of the chain finds its program. -/
  chained : ℕ → Bool := fun _ => true
  /-- Nested descriptor paths, in scan order. -/
  nestedFdPaths : List Capture := []
  /-- Whether several threads make a suspended first thread emit its marker. -/
  suspendedMarker : Bool := false
  /-- Flag word behind the argument of `clone3`, when it can be read. -/
  cloneArgs : Option UInt64 := none
  /-- Auxiliary word some families keep for their exit. -/
  aux0 : Option UInt32 := none

/-- The enter programs that routes name, by family. -/
inductive EnterProgram where
  | terminating
  | exec
  | noPayloadGeneric
  | noPayloadDirect
  | capture (handles : UInt32 → Bool)
  | marked
  | iovec
  | msg
  | mmsg
  | aio
  | nestedFdPath
  | bpf

section Records

variable (inv : Invocation) (ctx : EnterContext)

/-- An enter record as the decoder projects it. -/
def enterRecord (flags : UInt32) (time : UInt64) (capture : Capture) (ret : Int64 := 0)
    (probeRetEnter : Int32 := -1) : TraceEventEnvelope :=
  { eventType := .enter
    pid := inv.pid
    tid := inv.tid
    sysID := ctx.sysID
    eventFlags := flags|||capture.flags
    recordTime := time
    enterTime := time
    args := ctx.args
    ret := ret
    probeRetEnter := probeRetEnter
    probeRetExit := -1
    payload := capture.sections }

/-- Generic enter record of one program of a chain. -/
def genericRecord (stage : ℕ) (capture : Capture) : TraceEventEnvelope :=
  enterRecord inv ctx bpfEventFlagGenericEnter (inv.ktime (.handler stage)) capture

/-- Header bit of an enter record without a body status. -/
def eventFlagCompactEnter : UInt32 := 16

/-- The enter saved by a program that starts at the given time. -/
def pendingSyscall (config : UInt32) (time : UInt64) : PendingSyscall where
  enterTime := time
  cpuEnterTime := inv.cpuRuntime
  args := ctx.args
  pid := inv.pid
  sysID := ctx.sysID
  tid := inv.tid
  stackID := if hasBit config configCaptureStack then inv.stackID else -1

/-- Exit fragment of one nested descriptor path. -/
def nestedFdPathFragment (p : PendingSyscall) (stage : ℕ) (capture : Capture) :
    TraceEventEnvelope :=
  exitRecord inv p 0 (inv.ktime (.fragment stage)) 0 bpfEventFlagExitFragment capture

/-- Nested descriptor paths, one program for each, at most four. -/
def nestedFdPathFragments (p : PendingSyscall) : List TraceEventEnvelope :=
  ((ctx.nestedFdPaths.take fdPathNestedMax).zipIdx).map
    (fun path => nestedFdPathFragment inv p path.2 path.1)

end Records

section Chains

variable (arch : Arch) (inv : Invocation) (ctx : EnterContext)

/-- Buffers of a vectored write. -/
def enterIovecBase : List TraceEventEnvelope :=
  if isIovecBaseEnterDirectSyscall arch ctx.sysID then [genericRecord inv ctx 1 (ctx.capture 1)]
  else []

/-- Buffers of a sent message. -/
def enterSendmsgBase : List TraceEventEnvelope :=
  if ctx.sysID=sysSendmsg arch then [genericRecord inv ctx 1 (ctx.capture 1)] else []

/-- One program of the message-batch byte chain, followed by the rest of it. -/
def enterMmsgBytes (stage : ℕ) (rest : List TraceEventEnvelope) : List TraceEventEnvelope :=
  if ctx.sysID≠sysSendmmsg arch then []
  else genericRecord inv ctx stage (ctx.capture (stage+1))::
    (if ctx.chained (stage+1) then rest else [])

/-- Byte chain of a sent batch. -/
def enterMmsgBytes0 : List TraceEventEnvelope :=
  enterMmsgBytes arch inv ctx 4 (enterMmsgBytes arch inv ctx 5 (enterMmsgBytes arch inv ctx 6
    (enterMmsgBytes arch inv ctx 7 [])))

/-- Fourth message of a batch. -/
def enterMmsgBase3 : List TraceEventEnvelope :=
  if !isMmsgDirectSyscall arch ctx.sysID then []
  else genericRecord inv ctx 3 (ctx.capture 4)::
    (if ctx.sysID==sysSendmmsg arch && ctx.chained 4 then enterMmsgBytes0 arch inv ctx else [])

/-- Third message of a batch. -/
def enterMmsgBase2 : List TraceEventEnvelope :=
  if !isMmsgDirectSyscall arch ctx.sysID then []
  else genericRecord inv ctx 2 (ctx.capture 3)::
    (if ctx.chained 3 then enterMmsgBase3 arch inv ctx else [])

/-- First two messages of a batch, emitted by one program. -/
def enterMmsgBase01 : List TraceEventEnvelope :=
  if !isMmsgDirectSyscall arch ctx.sysID then []
  else genericRecord inv ctx 1 (ctx.capture 1)::genericRecord inv ctx 1 (ctx.capture 2)::
    (if ctx.chained 2 then enterMmsgBase2 arch inv ctx else [])

/-- Plain buffers of submitted requests. -/
def enterAioBuf : List TraceEventEnvelope :=
  if ctx.sysID=sysIoSubmit arch then [genericRecord inv ctx 2 (ctx.capture 2)] else []

/-- Vectored buffers of submitted requests. -/
def enterAioIovec : List TraceEventEnvelope :=
  if ctx.sysID≠sysIoSubmit arch then []
  else genericRecord inv ctx 1 (ctx.capture 1)::
    (if ctx.chained 2 then enterAioBuf arch inv ctx else [])

/-- Debug data of a loaded program. -/
def enterBpfProgLoadDebug : List TraceEventEnvelope :=
  [enterRecord inv ctx bpfEventFlagEnterFragment (inv.ktime (.handler 2)) (ctx.capture 1)]

end Chains

/-- What an enter program leaves behind: its records around the saved enter. -/
structure EnterEffect where
  /-- Records emitted in front of the save. -/
  records : List TraceEventEnvelope
  /-- Start time of the saved enter. -/
  enterTime : UInt64
  /-- Records of the chained programs. -/
  chained : List TraceEventEnvelope := []
  /-- Records of chained programs that look the saved enter up again. -/
  fragments : List TraceEventEnvelope := []

/-- Effect of an enter program, absent when no branch of it handles the syscall. -/
def enterEffect (arch : Arch) (st : RuntimeState) (inv : Invocation) (ctx : EnterContext)
    (program : EnterProgram) : Option EnterEffect :=
  let first := genericRecord inv ctx 0 (ctx.capture 0)
  let time := inv.ktime (.handler 0)
  let follow := fun (stage : ℕ) (records : List TraceEventEnvelope) =>
    if ctx.chained stage then records else []
  let emitEnter := hasBit st.config configEmitEnter
  match program with
  | .terminating => none
  | .exec => some ⟨(if emitEnter then [first] else [])++
      [enterRecord inv ctx 0 time (ctx.capture 0) (-514)
        (if st.mainExitedMap.lookup inv.pid=some 1 then 1 else 0)],time,[],[]⟩
  | .noPayloadGeneric =>
    let elided := hasBit st.config configElidePlainEnter &&
      (st.plainEnterElideMap.lookup ctx.sysID).isSome
    some ⟨if emitEnter && !elided then
      [enterRecord inv ctx (bpfEventFlagGenericEnter|||eventFlagCompactEnter) time {}] else [],
      time,[],[]⟩
  | .noPayloadDirect => some ⟨if emitEnter then [first] else [],time,[],[]⟩
  | .capture handles => if handles ctx.sysID then some ⟨[first],time,[],[]⟩ else none
  | .marked => some ⟨[first],time,if ctx.suspendedMarker then
      [enterRecord inv ctx bpfEventFlagGenericEnter time (ctx.capture 0) 0 3] else [],[]⟩
  | .iovec => some ⟨[first],time,if isIovecBaseEnterDirectSyscall arch ctx.sysID then
      follow 1 (enterIovecBase arch inv ctx) else [],[]⟩
  | .msg => some ⟨[first],time,if ctx.sysID=sysSendmsg arch then
      follow 1 (enterSendmsgBase arch inv ctx) else [],[]⟩
  | .mmsg => some ⟨[first],time,follow 1 (enterMmsgBase01 arch inv ctx),[]⟩
  | .aio => some ⟨if isAioPayloadEnterSyscall arch ctx.sysID || emitEnter then [first] else [],time,
      if ctx.sysID=sysIoSubmit arch then follow 1 (enterAioIovec arch inv ctx) else [],[]⟩
  | .nestedFdPath => some ⟨[first],time,[],if hasBit st.config configFdState &&
        (ctx.sysID==sysSelect arch || isPollDirectSyscall arch ctx.sysID) then
      follow 1 (nestedFdPathFragments inv ctx (pendingSyscall inv ctx st.config time)) else []⟩
  | .bpf =>
    if ctx.args.get 0==bpfDirectProgLoad && ctx.chained 1 then
      some ⟨[genericRecord inv ctx 1 (ctx.capture 0)],inv.ktime (.handler 1),
        follow 2 (enterBpfProgLoadDebug inv ctx),[]⟩
    else some ⟨[first],time,[],[]⟩

/-- Emit, save and go on, as every saving enter program does. -/
def applyEnterEffect (inv : Invocation) (ctx : EnterContext) (effect : EnterEffect)
    (st : RuntimeState) : RuntimeState :=
  let st := st.tell (submitAll inv effect.records)
  match savePendingSyscallValue inv (pendingSyscall inv ctx st.config effect.enterTime) st with
  | (st,saved) =>
    let st := match ctx.aux0 with
      | some aux0 => if saved then savePendingSyscallAux inv aux0 st else st
      | none => st
    st.tell (submitAll inv (effect.chained++(if saved then effect.fragments else [])))

/-- Enter and immediate exit record of a syscall that does not return. -/
def enterTerminating (inv : Invocation) (ctx : EnterContext) (st : RuntimeState) : RuntimeState :=
  let time := inv.ktime (.handler 0)
  let st := if inv.tid≠inv.pid then st
    else if inv.updateSucceeds .enterTerminating then
      { st with mainExitedMap := st.mainExitedMap.insert inv.pid 1 }
    else st.tell (recordLifecycleMapUpdateFail inv)
  st.tell (submitAll inv
    ((if hasBit st.config configEmitEnter then [genericRecord inv ctx 0 {}] else [])++
      [{ exitRecord inv (pendingSyscall inv ctx st.config time) 0 time 0 0 {} with
        cpuDuration := 0 }]))

/-- Emit and save as the family of a program does. -/
def captureEnter (arch : Arch) (program : EnterProgram) (inv : Invocation) (ctx : EnterContext)
    (st : RuntimeState) : RuntimeState :=
  match enterEffect arch st inv ctx program with
  | none => st
  | some effect => applyEnterEffect inv ctx effect st

/-- Run an enter program. -/
def runEnterProgram (arch : Arch) (program : EnterProgram) (inv : Invocation)
    (ctx : EnterContext) (st : RuntimeState) : RuntimeState :=
  match program with
  | .terminating => enterTerminating inv ctx st
  | .exec =>
    let st := captureEnter arch .exec inv ctx st
    if inv.tid=inv.pid then st
    else if inv.updateSucceeds .enterExec then
      { st with pendingExecMap := st.pendingExecMap.insert inv.pid inv.tid }
    else st.tell (recordLifecycleMapUpdateFail inv)
  | program => captureEnter arch program inv ctx st

end StraceGo.BpfEnterPrograms

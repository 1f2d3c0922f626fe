import StraceGo.ByteLayout
import StraceGo.FiniteMaps
import StraceGo.JsonSyscallEncoder
import StraceGo.StringRendering
import Mathlib.Data.Fintype.Basic

/-!
# The text renderer

A line of text has a time, a process number, an instruction pointer and a
syscall number in front, each if it is asked for, then the call, a gap up to
the column of the return values, and the return value with its duration.
-/

namespace StraceGo.TextLines

open FiniteMaps Utf8Text JsonSyscallEncoder

section Options

/-- What is shown of times. -/
structure TraceTimeOptions where
  /-- Mode of the time in front of a line. -/
  printTimeMode : ℤ := 0
  /-- The time since the last line is shown. -/
  printRelativeTime : Bool := false
  /-- Format of the time in front of a line, empty for none. -/
  absoluteFormat : Bytes := []
  /-- Digits of the time's fraction. -/
  absolutePrecision : ℕ := 0
  /-- Digits of the fraction of the time since the last line. -/
  relativePrecision : ℕ := 0

/-- What a line shows. -/
structure TraceRenderOptions where
  /-- Times. -/
  time : TraceTimeOptions := {}
  /-- Children are followed. -/
  followForks : Bool := false
  /-- The process number is shown. -/
  showPID : Bool := false
  /-- It is shown for the first process too. -/
  alwaysShowPID : Bool := false
  /-- Column of the return values. -/
  alignCol : ℤ := 0
  /-- Durations are shown. -/
  printSyscallTime : Bool := false
  /-- Digits of a duration's fraction. -/
  syscallTimePrecision : ℕ := 0
  /-- Syscall numbers are shown. -/
  printSyscallNumber : Bool := false
  /-- Instruction pointers are shown. -/
  instructionPointer : Bool := false
  /-- Names of arguments are shown. -/
  printArgNames : Bool := false
  /-- Stacks are shown. -/
  stackTrace : Bool := false
  /-- Frames of a stack that are shown. -/
  stackTraceFrameLimit : ℤ := 0
  /-- Names of processes are shown. -/
  decodePIDsComm : Bool := false
  /-- Process numbers of other namespaces are translated. -/
  decodePIDsPIDNS : Bool := false

/-- Options of the command line that the text depends on. -/
structure CliOptions where
  /-- Mode of the time in front of a line. -/
  printTimeMode : ℤ := 0
  /-- The time since the last line is shown. -/
  printRelativeTime : Bool := false
  /-- Precision of the time since the last line. -/
  relativeTimePrecision : Bytes := []
  /-- Format of the time in front of a line. -/
  absoluteTimeFormat : Bytes := []
  /-- Its precision. -/
  absoluteTimePrecision : Bytes := []
  /-- Children are followed. -/
  followForks : Bool := false
  /-- The process number is always shown. -/
  alwaysShowPID : Bool := false
  /-- Every process has a file of its own. -/
  outputSeparate : Bool := false
  /-- File of the output, empty for none. -/
  outFile : Bytes := []
  /-- Column of the return values. -/
  alignCol : ℤ := 40
  /-- Durations are shown. -/
  printSyscallTime : Bool := false
  /-- Precision of a duration. -/
  syscallTimePrecision : Bytes := []
  /-- Syscall numbers are shown. -/
  printSyscallNumber : Bool := false
  /-- Instruction pointers are shown. -/
  instructionPointer : Bool := false
  /-- Names of arguments are shown. -/
  printArgNames : Bool := false
  /-- Stacks are shown. -/
  stackTrace : Bool := false
  /-- Frames of a stack that are shown. -/
  stackFrameLimit : ℤ := 0
  /-- Names of processes are shown. -/
  decodePIDsComm : Bool := false
  /-- Process numbers of other namespaces are translated. -/
  decodePIDsPIDNS : Bool := false

/-- Digits of a fraction for a named precision. -/
def timestampPrecisionWidth (precision : Bytes) (defaultWidth : ℕ) : ℕ :=
  if precision=ascii "s" then 0
  else if precision=ascii "ms" then 3
  else if precision=ascii "us" then 6
  else if precision=ascii "ns" then 9
  else defaultWidth

/-- Time options of a command line; a named format wins over a mode. -/
def normalizedTimeOptions (opts : CliOptions) : TraceTimeOptions :=
  let options : TraceTimeOptions := {
    printTimeMode := opts.printTimeMode
    printRelativeTime := opts.printRelativeTime
    relativePrecision := timestampPrecisionWidth opts.relativeTimePrecision 6 }
  if opts.absoluteTimeFormat≠[] then
    if opts.absoluteTimeFormat≠ascii "none" then
      { options with
        absoluteFormat := opts.absoluteTimeFormat
        absolutePrecision := timestampPrecisionWidth opts.absoluteTimePrecision 0 }
    else options
  else if opts.printTimeMode=1 then {options with absoluteFormat := ascii "time"}
  else if opts.printTimeMode=2 then
    {options with absoluteFormat := ascii "time", absolutePrecision := 6}
  else if opts.printTimeMode=3 then
    {options with absoluteFormat := ascii "unix", absolutePrecision := 6}
  else options

/-- Frames of a stack that are shown if no number is given. -/
def defaultStackTraceFrameLimit : ℤ := 256

/-- Frames of a stack that are shown for a number of the command line. -/
def normalizedStackTraceFrameLimit (limit : ℤ) : ℤ :=
  if limit ≤ 0 then defaultStackTraceFrameLimit else limit

/-- What a line shows for a command line. -/
def newTraceRenderOptions (opts : CliOptions) : TraceRenderOptions where
  time := normalizedTimeOptions opts
  followForks := opts.followForks
  showPID := (opts.followForks || opts.alwaysShowPID) && !opts.outputSeparate
  alwaysShowPID := opts.alwaysShowPID ||
    opts.followForks && opts.outFile != [] && !opts.outputSeparate
  alignCol := opts.alignCol
  printSyscallTime := opts.printSyscallTime
  syscallTimePrecision := timestampPrecisionWidth opts.syscallTimePrecision 6
  printSyscallNumber := opts.printSyscallNumber
  instructionPointer := opts.instructionPointer
  printArgNames := opts.printArgNames
  stackTrace := opts.stackTrace
  stackTraceFrameLimit := normalizedStackTraceFrameLimit opts.stackFrameLimit
  decodePIDsComm := opts.decodePIDsComm
  decodePIDsPIDNS := opts.decodePIDsPIDNS

end Options

section Columns

/-- Text at the right of a column. -/
def padLeft (fill : UInt8) (width : ℕ) (text : Bytes) : Bytes :=
  List.replicate (width-text.length) fill ++ text

/-- Text at the left of a column. -/
def padRight (width : ℕ) (text : Bytes) : Bytes := text ++ List.replicate (width-text.length) 32

/-- Hexadecimal digits of a number. -/
def hexadecimal (n : ℕ) : Bytes := ascii (GoText.hex n)

/-- Nanoseconds of the last digit of a fraction. -/
def precisionScale (precision : ℕ) : ℕ :=
  if precision=3 then 1000000 else if precision=6 then 1000 else 1

/-- Text of a number of nanoseconds. -/
def formatSeconds (ns : UInt64) (precision minimumWidth : ℕ) : Bytes :=
  let result := padLeft 32 minimumWidth (decimal (ns.toNat/1000000000))
  if precision=0 then result
  else result ++ ascii "." ++
    padLeft 48 precision (decimal (ns.toNat%1000000000/precisionScale precision))

end Columns

section Times

/-- Times in front of lines. -/
structure TimeFormatter where
  /-- Real time of the boot. -/
  bootTimeOffsetNs : Int64 := 0
  /-- Time of the last line, zero for none. -/
  lastSyscallTimeNs : UInt64 := 0
  /-- Time of the day, where the tracer runs, at a real time. -/
  timeOfDay : Int64 → Bytes

/-- Text of a real time. -/
def TimeFormatter.formatAbsoluteTimestamp (tf : TimeFormatter) (realTimeNs : Int64)
    (format : Bytes) (precision : ℕ) : Bytes :=
  let base := if format=ascii "time" then tf.timeOfDay realTimeNs
    else decimalInt (realTimeNs/1000000000).toInt
  if precision=0 then base
  else base ++ ascii "." ++ padLeft 48 precision
    (decimal ((realTimeNs%1000000000).toUInt64.toNat/precisionScale precision))

/-- Time in front of a line; the time since the last line is kept. -/
def TimeFormatter.enterPrefix (tf : TimeFormatter) (enterTimeMonoNs : UInt64)
    (options : TraceTimeOptions) : Bytes×TimeFormatter :=
  if options.absoluteFormat=[] ∧ options.printRelativeTime=false then ([],tf)
  else
    let absolutePrefix :=
      if options.absoluteFormat=[] then []
      else tf.formatAbsoluteTimestamp (enterTimeMonoNs.toInt64+tf.bootTimeOffsetNs)
        options.absoluteFormat options.absolutePrecision
    if options.printRelativeTime then
      let diff :=
        if tf.lastSyscallTimeNs≠0 ∧ tf.lastSyscallTimeNs ≤ enterTimeMonoNs then
          enterTimeMonoNs-tf.lastSyscallTimeNs
        else 0
      let relative := formatSeconds diff options.relativePrecision 6
      let line := if absolutePrefix≠[] then absolutePrefix ++ ascii " (+" ++ relative ++ ascii ") "
        else relative ++ ascii " "
      (line,{tf with lastSyscallTimeNs := enterTimeMonoNs})
    else (absolutePrefix ++ ascii " ",tf)

end Times

section Names

/-- Name of a task without what is behind its first zero byte. -/
def trimComm (comm : Bytes) : Bytes := comm.takeWhile (· != 0)

/-- Name of a task as it is shown. -/
def escapeTaskComm (comm : Bytes) : Bytes :=
  let escaped := ascii (StringRendering.bufferEscape comm comm.length comm.length 0)
  let escaped := if 2 ≤ escaped.length then (escaped.drop 1).dropLast else escaped
  escaped.flatMap fun b =>
    if b=60 then ascii "\\74" else if b=62 then ascii "\\76" else [b]

end Names

section Events

/-- Names and types of a syscall's arguments. -/
structure Signature where
  /-- Names. -/
  args : List Bytes := []
  /-- Types. -/
  argTypes : List Bytes := []

/-- A syscall event as the renderer sees it. -/
structure SyscallEvent (V : Type) extends EventContext V where
  /-- Name of the task. -/
  comm : Bytes := []
  /-- The matched enter has been printed as unfinished. -/
  unfinishedPrinted : Bool := false
  /-- Arguments of the description. -/
  signature : Signature := {}
  /-- Arguments of the description that the handler saw. -/
  handlerSignature : Signature := {}

variable {V : Type}

/-- Arguments of the syscall, from the description or from the handler's context. -/
def SyscallEvent.effectiveSignature (ev : SyscallEvent V) : Signature :=
  if ev.metaName≠[] then ev.signature
  else
    match ev.handlerContext with
    | some ctx =>
      if ctx.scMetaName≠[] then ev.handlerSignature
      else if ctx.sysName≠[] then {}
      else ev.signature
    | none => ev.signature

/-- Captured process numbers of the tracer's namespace. -/
def pidNamespaceSnapshotData (sections : List PayloadSection) : Option Bytes :=
  sections.findSome? fun captured =>
    let data := captured.data.getD []
    if captured.kind≠ascii "pid_namespace" ∨ captured.direction≠ascii "out" ∨
        captured.argIndex≠0xfffa ∨ captured.probeRet≠0 ∨ captured.copiedLen≠8 ∨
        data.length≠8 then
      none
    else some data

/-- Comment on a process number of another namespace. -/
def pidNamespaceReturnComment (name : Bytes) (ret : Int64) (ctx : Option (Context V)) : Bytes :=
  match ctx with
  | none => []
  | some ctx =>
    if ret ≤ 0 then []
    else
      match pidNamespaceSnapshotData ctx.payloadSections with
      | none => []
      | some data =>
        let translated :=
          if name=ascii "getpid" ∨ name=ascii "fork" ∨ name=ascii "vfork" then
            ByteLayout.field data 4 4
          else if name=ascii "gettid" then ByteLayout.field data 0 4
          else 0
        if translated=0 ∨ (translated : ℤ)=ret.toInt then []
        else ascii " /* " ++ decimal translated ++ ascii " in strace's PID NS */"

end Events

section Renderer

/-- Where the lines go; an output with a file for every process is told which. -/
structure Output where
  /-- Every process has a file of its own. -/
  selects : Bool := false
  /-- Process whose file is written. -/
  selected : Option ℤ := none
  /-- Bytes written, with the process they were written for. -/
  written : List (Option ℤ×UInt8) := []

/-- Write some bytes. -/
def Output.write (out : Output) (text : Bytes) : Output :=
  {out with written := out.written ++ text.map fun b => (out.selected,b)}

/-- Addresses of a stack. -/
structure TraceStackSnapshot where
  /-- Addresses, innermost first; zero ends them. -/
  ips : Vector UInt64 127 := Vector.replicate 127 0
  /-- The stack was read. -/
  available : Bool := false

/-- The renderer of text lines. -/
structure TextRenderer where
  /-- Where the lines go. -/
  out : Option Output
  /-- What a line shows. -/
  options : TraceRenderOptions := {}
  /-- Syscalls printed as unfinished without an enter to match, if the renderer asks for them. -/
  state : Option (GoMap ℤ Bytes) := none
  /-- Times in front of lines. -/
  timeFormatter : Option TimeFormatter := none
  /-- Reader of stacks. -/
  stackTraces : Option (UInt32 → Option (Vector UInt64 127)) := none
  /-- Symbols of addresses. -/
  resolver : Option (UInt64 → Bytes) := none
  /-- Process of the command, zero for none. -/
  targetPID : ℤ := 0
  /-- Bytes that the next line is built in. -/
  lineBuffer : Bytes := []
  /-- Names of the tasks. -/
  taskComms : Option (GoMap UInt32 Bytes) := none
  /-- Names are kept if they are shown. -/
  comms : taskComms.isSome=options.decodePIDsComm

/-- A renderer; the tracer itself, where it keeps names, is the first task it knows. -/
def newTextRenderer (out : Option Output) (options : TraceRenderOptions)
    (state : Option (GoMap ℤ Bytes)) (timeFormatter : Option TimeFormatter)
    (stackTraces : Option (UInt32 → Option (Vector UInt64 127)))
    (resolver : Option (UInt64 → Bytes)) (targetPID : ℤ) (self : UInt32) : TextRenderer where
  out := out
  options := options
  state := state
  timeFormatter := timeFormatter
  stackTraces := stackTraces
  resolver := resolver
  targetPID := targetPID
  taskComms := if options.decodePIDsComm then
      some (if self=0 then ∅ else (∅ : GoMap UInt32 Bytes).insert self (ascii "strace"))
    else none
  comms := by
    cases options.decodePIDsComm <;> rfl

namespace TextRenderer

variable {V : Type} (texts : Texts V) (r : TextRenderer) (ev : SyscallEvent V)

/-- Write some bytes. -/
def write (text : Bytes) : TextRenderer := {r with out := r.out.map fun out => out.write text}

/-- Choose the file of a process. -/
def selectOutputPID (pid : ℤ) : TextRenderer :=
  {r with out := r.out.map fun out => if out.selects then {out with selected := some pid} else out}

/-- Keep the name of an event's task. -/
def observeTaskComm : TextRenderer :=
  if ev.comm=[] ∨ ev.view.tid=0 then r
  else
    { r with
      taskComms := r.taskComms.map fun comms => comms.insert ev.view.tid (trimComm ev.comm)
      comms := by rw [Option.isSome_map]; exact r.comms }

/-- Name of a task. -/
def lookupComm (pid : UInt32) : Option Bytes := r.taskComms.bind fun comms => comms.lookup pid

/-- Ask whether a task's syscall was printed as unfinished; the answer is given once. -/
def consumeSuspended (tid : ℤ) : Bool×TextRenderer :=
  match r.state with
  | none => (false,r)
  | some suspended =>
    if (suspended.lookup tid).isSome then (true,{r with state := some (suspended.erase tid)})
    else (false,r)

/-- Time in front of a line. -/
def timePrefix (enterTimeMonoNs : UInt64) : Bytes×TextRenderer :=
  match r.timeFormatter with
  | none => ([],r)
  | some tf =>
    let (line,tf) := tf.enterPrefix enterTimeMonoNs r.options.time
    (line,{r with timeFormatter := some tf})

/-- Process number in front of a line. -/
def pidPrefix (tid : ℤ) : Bytes :=
  if r.options.showPID then
    if r.options.followForks=true ∧ r.options.alwaysShowPID=false ∧ 0 < r.targetPID then
      if tid=r.targetPID then []
      else ascii "[pid " ++ padLeft 32 5 (decimalInt tid) ++ ascii "] "
    else
      match r.lookupComm (UInt32.ofInt tid) with
      | some comm => decimalInt tid ++ ascii "<" ++ escapeTaskComm comm ++ ascii "> "
      | none => padRight 5 (decimalInt tid) ++ ascii " "
  else []

/-- Syscall number in front of a line. -/
def syscallNumberPrefix (view : SyscallView) : Bytes :=
  if r.options.printSyscallNumber=false then []
  else ascii "[" ++ padLeft 32 4 (decimal view.sysID.toNat) ++ ascii "] "

/-- Gap before the column of the return values. -/
def padding (timePrefix pidPrefix line : Bytes) : Bytes :=
  let totalLen : ℤ := timePrefix.length+pidPrefix.length+line.length
  if totalLen < r.options.alignCol then List.replicate (r.options.alignCol-totalLen).toNat 32
  else [32]

/-- Duration behind a line. -/
def durationSuffix (duration : UInt64) : Bytes :=
  if r.options.printSyscallTime=false then []
  else ascii " <" ++ formatSeconds duration r.options.syscallTimePrecision 1 ++ ascii ">"

/-- Read a stack if it is shown. -/
def readStackSnapshot (stackID : Int32) : TraceStackSnapshot :=
  if (r.options.stackTrace=false ∧ r.options.instructionPointer=false) ∨ stackID < 0 then {}
  else
    match r.stackTraces.bind fun read => read stackID.toUInt32 with
    | none => {}
    | some ips => {ips := ips, available := true}

/-- Instruction pointer in front of a line. -/
def instructionPointerPrefix (snapshot : TraceStackSnapshot) : Bytes :=
  if r.options.instructionPointer=false then []
  else if snapshot.available=true ∧ snapshot.ips.get 0≠0 then
    ascii "[" ++ padLeft 48 16 (hexadecimal (snapshot.ips.get 0).toNat) ++ ascii "] "
  else ascii "[" ++ List.replicate 16 63 ++ ascii "] "

/-- Lines of a stack from a frame on. -/
def stackLines (resolve : UInt64 → Bytes) (index : ℤ) : List UInt64 → Bytes
  | [] => []
  | ip::rest =>
    if ip=0 then []
    else if r.options.stackTraceFrameLimit ≤ index then ascii " > too many stack frames\n"
    else ascii " > " ++ resolve ip ++ ascii "\n" ++ stackLines resolve (index+1) rest

/-- Write a stack behind its line. -/
def printStackTrace (snapshot : TraceStackSnapshot) : TextRenderer :=
  match r.resolver with
  | none => r
  | some resolve =>
    if r.options.stackTrace=false ∨ snapshot.available=false then r
    else r.write (r.stackLines resolve 0 snapshot.ips.toList)

/-- Process number with the name of its task. -/
def decoratePID (pid : Int32) (text : Bytes) : Bytes :=
  if pid ≤ 0 then text
  else
    match r.lookupComm pid.toUInt32 with
    | none => text
    | some comm => text ++ ascii "<" ++ escapeTaskComm comm ++ ascii ">"

/-- Whether a syscall returns a process number. -/
def isPIDReturnSyscall (name : Bytes) : Bool :=
  [ascii "getpid",ascii "getppid",ascii "gettid",ascii "getpgid",ascii "getsid"].contains name

/-- Return value with the name of its task. -/
def decoratePIDReturn (name : Bytes) (ret : Int64) (text : Bytes) : Bytes :=
  if ret ≤ 0 ∨ isPIDReturnSyscall name=false then text else r.decoratePID ret.toInt32 text

/-- Arguments of a call, with their names if these are shown. -/
def formatSyscallArguments (argNames parts : List Bytes) (showNames : Bool) : Bytes :=
  if showNames=false ∨ parts=[] then (ascii ", ").intercalate parts
  else (ascii ", ").intercalate (parts.mapIdx fun index part =>
    match argNames[index]? with
    | none => part
    | some name => if name=[] then part else name ++ ascii "=" ++ part)

/-- Arguments of a call, with the names of tasks. -/
def formatArguments (view : SyscallView) (signature : Signature) (parts : List Bytes) : Bytes :=
  let formatted := parts.mapIdx fun index part =>
    if signature.argTypes[index]?=some (ascii "pid_t") then
      r.decoratePID (view.args.toList.getD index 0).toUInt32.toInt32 part
    else part
  formatSyscallArguments signature.args formatted r.options.printArgNames

/-- The call of a line, or the rest of a call that was printed as unfinished. -/
def syscallLine (linePrefix args : Bytes) : Bytes×TextRenderer :=
  let name := ev.effectiveSyscallName
  if ev.unfinishedPrinted then (linePrefix ++ ascii "<... " ++ name ++ ascii " resumed>)",r)
  else
    match r.consumeSuspended ev.view.tid.toNat with
    | (true,r) =>
      if name=ascii "nanosleep" then
        (linePrefix ++ ascii "<... " ++ name ++ ascii " resumed> <unfinished ...>)",r)
      else (linePrefix ++ ascii "<... " ++ name ++ ascii " resumed>)",r)
    | (false,r) => (linePrefix ++ name ++ ascii "(" ++ args ++ ascii ")",r)

/-- Text of the return value, with the name of its task and its number in the tracer's
namespace. -/
def returnText (res : Result) : Bytes :=
  let name := ev.effectiveSyscallName
  let ctx := ev.handlerContextForFormatting texts
  let retStr := formatSyscallRet texts name ev.view.ret res ctx
  let retStr := r.decoratePIDReturn name ev.view.ret retStr
  if r.options.decodePIDsPIDNS then retStr ++ pidNamespaceReturnComment name ev.view.ret ctx
  else retStr

/-- Print the line of a syscall with the text of its return value. -/
def printReturned (res : Result) (retStr : Bytes) : TextRenderer :=
  let tid : ℤ := ev.view.tid.toNat
  let stack := r.readStackSnapshot ev.view.stackID
  let args := r.formatArguments ev.view ev.effectiveSignature res.argParts
  let linePrefix := r.instructionPointerPrefix stack ++ r.syscallNumberPrefix ev.view
  let (line,r) := r.syscallLine ev linePrefix args
  let (timePrefix,r) := r.timePrefix ev.view.enterTime
  let pidPrefix := r.pidPrefix tid
  let r := r.write (timePrefix ++ pidPrefix ++ line ++ r.padding timePrefix pidPrefix line ++
    ascii "= " ++ retStr ++ r.durationSuffix ev.view.duration ++ ascii "\n")
  let r := if res.hexDumpStr=[] then r else r.write res.hexDumpStr
  r.printStackTrace stack

/-- Print a syscall, in general. -/
def printSyscallGeneral (res : Result) : TextRenderer :=
  r.printReturned ev res (r.returnText texts ev res)

/-- Print an unfinished syscall, in general. -/
def printUnfinishedGeneral (res : Result) : TextRenderer :=
  let name := ev.effectiveSyscallName
  let parts := if name=ascii "nanosleep" then res.argParts.take 1 else res.argParts
  let args := r.formatArguments ev.view ev.effectiveSignature parts
  let line := r.instructionPointerPrefix {} ++ r.syscallNumberPrefix ev.view ++ name ++
    ascii "(" ++ args ++ ascii " <unfinished ...>"
  let (timePrefix,r) := r.timePrefix ev.view.enterTime
  r.write (timePrefix ++ r.pidPrefix ev.view.tid.toNat ++ line ++ ascii "\n")

end TextRenderer

end Renderer

end StraceGo.TextLines

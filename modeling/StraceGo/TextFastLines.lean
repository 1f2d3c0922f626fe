import StraceGo.JsonSyscallLines
import StraceGo.TextLines
import Mathlib.Data.List.Infix

/-!
# The fast lines of the text renderer

A syscall without argument texts is written by hand, past the general
formatting. The fast line is the general one in everything but the process
number: it has the plain column where the general one writes nothing for the
command and a bracketed number for its children. So the two agree exactly when
the bracketed form is not asked for.
-/

namespace StraceGo.TextFastLines

open Utf8Text JsonSyscallEncoder JsonSyscallLines TextLines TextLines.TextRenderer

section FastLines

variable {V : Type}

/-- Whether the fast lines know all that is asked for in front of a line. -/
def fastTextPrefixAllowed (options : TraceRenderOptions) : Bool :=
  !options.printSyscallTime && !options.stackTrace && !options.instructionPointer &&
    options.time.printTimeMode==0 && !options.time.printRelativeTime &&
    !options.decodePIDsComm && !options.decodePIDsPIDNS

/-- Whether the return value is shown as its decimal digits. -/
def fastTextReturnAllowed (ev : SyscallEvent V) (options : TraceRenderOptions) : Bool :=
  if (ev.handlerContext.map fun ctx => ctx.showPaths==some true)=some true then false
  else if options.showPID=true ∧ ev.view.tid=0 then false
  else !([ascii "fcntl",ascii "fcntl64",ascii "umask",ascii "brk",ascii "mmap",ascii "mremap",
    ascii "adjtimex",ascii "clock_adjtime"].contains ev.syscallName)

/-- Start of a line and its length. -/
def startFastTextLine (r : TextRenderer) (view : SyscallView) (options : TraceRenderOptions) :
    Bytes×ℕ×TextRenderer :=
  let buffer := r.lineBuffer.take 0
  let (timePrefix,r) := r.timePrefix view.enterTime
  let buffer := buffer ++ timePrefix
  let buffer := if options.showPID then
    buffer ++ padRight 5 (decimal view.tid.toNat) ++ [32] else buffer
  let buffer := if options.printSyscallNumber then
    buffer ++ [91] ++ padLeft 32 4 (decimal view.sysID.toNat) ++ [93,32] else buffer
  (buffer,buffer.length,r)

/-- Append the gap before the column of the return values. -/
def appendFastTextPadding (buffer : Bytes) (prefixLen lineLen : ℕ) (alignCol : ℤ) : Bytes :=
  let padding := alignCol-prefixLen-lineLen
  let padding := if padding < 1 then 1 else padding
  buffer ++ List.replicate padding.toNat 32

/-- Write a line and keep its buffer. -/
def writeFastTextBuffer (r : TextRenderer) (buffer : Bytes) : TextRenderer :=
  {r.write buffer with lineBuffer := buffer}

/-- Write a syscall without argument texts, if the fast line can show it. -/
def writePlainSyscallFast (r : TextRenderer) (ev : SyscallEvent V) (res : Result) :
    Option TextRenderer :=
  if r.out.isNone=true ∨ res.argParts≠[] ∨ res.hexDumpStr≠[] ∨ res.returnDesc≠[] ∨
      res.showEmptyReturnDesc=true then
    none
  else if ev.view.ret < 0 then none
  else if fastTextPrefixAllowed r.options=false ∨ fastTextReturnAllowed ev r.options=false then
    none
  else
    let name := ev.syscallName
    if name=[] ∨ [ascii "exit",ascii "exit_group",ascii "nanosleep",
        ascii "clock_nanosleep"].contains name=true then
      none
    else
      let (resumed,r) :=
        if ev.unfinishedPrinted then (true,r) else r.consumeSuspended ev.view.tid.toNat
      let (buffer,prefixLen,r) := startFastTextLine r ev.view r.options
      let (buffer,lineLen) :=
        if resumed then
          (buffer ++ ascii "<... " ++ name ++ ascii " resumed>)",
            name.length+(ascii "<...  resumed>)").length)
        else (buffer ++ name ++ ascii "()",name.length+2)
      let buffer := appendFastTextPadding buffer prefixLen lineLen r.options.alignCol
      let buffer := buffer ++ ascii "= "
      let buffer := buffer ++ decimalInt ev.view.ret.toInt
      let buffer := buffer ++ ascii "\n"
      some (writeFastTextBuffer r buffer)

/-- Write an unfinished syscall without argument texts, if the fast line can show it. -/
def writePlainUnfinishedFast (r : TextRenderer) (ev : SyscallEvent V) (res : Result) :
    Option TextRenderer :=
  if r.out.isNone=true ∨ res.argParts≠[] ∨ ev.syscallName=ascii "nanosleep" then none
  else if fastTextPrefixAllowed r.options=false then none
  else
    let name := ev.syscallName
    if name=[] then none
    else
      let (buffer,_,r) := startFastTextLine r ev.view r.options
      let buffer := buffer ++ name
      let buffer := buffer ++ ascii "( <unfinished ...>"
      let buffer := buffer ++ ascii "\n"
      some (writeFastTextBuffer r buffer)

/-- Print a syscall. -/
def printSyscallEvent (texts : Texts V) (r : TextRenderer) (ev : SyscallEvent V) (res : Result) :
    TextRenderer :=
  let r := (r.observeTaskComm ev).selectOutputPID ev.view.tid.toNat
  (writePlainSyscallFast r ev res).getD (r.printSyscallGeneral texts ev res)

/-- Print an unfinished syscall. -/
def printUnfinishedEvent (r : TextRenderer) (ev : SyscallEvent V) (res : Result) : TextRenderer :=
  let r := (r.observeTaskComm ev).selectOutputPID ev.view.tid.toNat
  (writePlainUnfinishedFast r ev res).getD (r.printUnfinishedGeneral ev res)

end FastLines

section Outcomes

/-- Two renderers are the same but for the bytes that their next lines are built in. -/
def SameOutcome (a b : TextRenderer) : Prop :=
  ({a with lineBuffer := []} : TextRenderer)={b with lineBuffer := []}

theorem SameOutcome.out {a b : TextRenderer} (h : SameOutcome a b) : a.out=b.out := by
  have hout := congrArg TextRenderer.out h
  exact hout

/-- Process number of a fast line. -/
def fastPID (r : TextRenderer) (tid : UInt32) : Bytes :=
  if r.options.showPID then padRight 5 (decimal tid.toNat) ++ [32] else []

/-- The bracketed form of process numbers is asked for. -/
def BracketsPID (r : TextRenderer) : Prop :=
  r.options.showPID=true ∧ r.options.followForks=true ∧ r.options.alwaysShowPID=false ∧
    0 < r.targetPID

/-- A renderer with other times and suspended syscalls. -/
structure Follows (r s : TextRenderer) : Prop where
  /-- The output is the same. -/
  out : s.out=r.out
  /-- The options are the same. -/
  options : s.options=r.options
  /-- The process of the command is the same. -/
  targetPID : s.targetPID=r.targetPID
  /-- The names of the tasks are the same. -/
  taskComms : s.taskComms=r.taskComms

theorem Follows.trans {r s t : TextRenderer} (h : Follows r s) (h' : Follows s t) :
    Follows r t where
  out := h'.out.trans h.out
  options := h'.options.trans h.options
  targetPID := h'.targetPID.trans h.targetPID
  taskComms := h'.taskComms.trans h.taskComms

theorem follows_consumeSuspended (r : TextRenderer) (tid : ℤ) :
    Follows r (r.consumeSuspended tid).2 := by
  unfold consumeSuspended
  split
  · exact ⟨rfl,rfl,rfl,rfl⟩
  · split_ifs <;> exact ⟨rfl,rfl,rfl,rfl⟩

theorem follows_timePrefix (r : TextRenderer) (time : UInt64) :
    Follows r (r.timePrefix time).2 := by
  unfold timePrefix
  split <;> exact ⟨rfl,rfl,rfl,rfl⟩

end Outcomes

section Buffers

variable {V : Type} (r : TextRenderer) (b : Bytes)

/-- A renderer with other bytes to build its next line in. -/
def withBuffer : TextRenderer := {r with lineBuffer := b}

theorem write_withBuffer (text : Bytes) :
    (withBuffer r b).write text=withBuffer (r.write text) b := rfl

@[simp] theorem pidPrefix_withBuffer (tid : ℤ) :
    (withBuffer r b).pidPrefix tid=r.pidPrefix tid := rfl

@[simp] theorem padding_withBuffer (time pid line : Bytes) :
    (withBuffer r b).padding time pid line=r.padding time pid line := rfl

@[simp] theorem durationSuffix_withBuffer (duration : UInt64) :
    (withBuffer r b).durationSuffix duration=r.durationSuffix duration := rfl

theorem consumeSuspended_withBuffer (tid : ℤ) :
    (withBuffer r b).consumeSuspended tid=
      ((r.consumeSuspended tid).1,withBuffer (r.consumeSuspended tid).2 b) := by
  have hstate : (withBuffer r b).state=r.state := rfl
  unfold consumeSuspended
  rw [hstate]
  cases r.state with
  | none => rfl
  | some suspended =>
    dsimp only
    split_ifs <;> rfl

theorem timePrefix_withBuffer (time : UInt64) :
    (withBuffer r b).timePrefix time=
      ((r.timePrefix time).1,withBuffer (r.timePrefix time).2 b) := by
  have hformatter : (withBuffer r b).timeFormatter=r.timeFormatter := rfl
  unfold timePrefix
  rw [hformatter]
  cases r.timeFormatter with
  | none => rfl
  | some tf => rfl

theorem syscallLine_withBuffer (ev : SyscallEvent V) (linePrefix args : Bytes) :
    (withBuffer r b).syscallLine ev linePrefix args=
      ((r.syscallLine ev linePrefix args).1,
        withBuffer (r.syscallLine ev linePrefix args).2 b) := by
  unfold syscallLine
  rw [consumeSuspended_withBuffer]
  split_ifs with hprinted
  · rfl
  · generalize r.consumeSuspended ev.view.tid.toNat = question
    obtain ⟨resumed,s⟩ := question
    cases resumed with
    | true =>
      dsimp only
      split_ifs <;> rfl
    | false => rfl

theorem printStackTrace_withBuffer (snapshot : TraceStackSnapshot) :
    (withBuffer r b).printStackTrace snapshot=withBuffer (r.printStackTrace snapshot) b := by
  have hresolver : (withBuffer r b).resolver=r.resolver := rfl
  have hoptions : (withBuffer r b).options=r.options := rfl
  have hlines : ∀ resolve, (withBuffer r b).stackLines resolve 0 snapshot.ips.toList=
      r.stackLines resolve 0 snapshot.ips.toList := by
    intro resolve
    generalize (0 : ℤ) = index
    induction snapshot.ips.toList generalizing index with
    | nil => rfl
    | cons ip rest ih =>
      unfold stackLines
      rw [ih,hoptions]
  unfold printStackTrace
  rw [hresolver]
  cases r.resolver with
  | none => rfl
  | some resolve =>
    dsimp only
    rw [hlines,hoptions]
    split_ifs <;> rfl

/-- The general line is not built in the buffer. -/
theorem printSyscallGeneral_withBuffer (texts : Texts V) (ev : SyscallEvent V) (res : Result) :
    (withBuffer r b).printSyscallGeneral texts ev res=
      withBuffer (r.printSyscallGeneral texts ev res) b := by
  have hline := syscallLine_withBuffer r b ev
    (r.instructionPointerPrefix (r.readStackSnapshot ev.view.stackID) ++
      r.syscallNumberPrefix ev.view)
    (r.formatArguments ev.view ev.effectiveSignature res.argParts)
  change (withBuffer r b).syscallLine ev ((withBuffer r b).instructionPointerPrefix
    ((withBuffer r b).readStackSnapshot ev.view.stackID) ++
      (withBuffer r b).syscallNumberPrefix ev.view) ((withBuffer r b).formatArguments ev.view
        ev.effectiveSignature res.argParts)=_ at hline
  have hreturn : (withBuffer r b).returnText texts ev res=r.returnText texts ev res := rfl
  unfold printSyscallGeneral printReturned
  rw [hreturn]
  dsimp only
  rw [hline]
  dsimp only
  rw [timePrefix_withBuffer]
  simp only [pidPrefix_withBuffer,padding_withBuffer,durationSuffix_withBuffer,write_withBuffer]
  by_cases hdump : res.hexDumpStr=[]
  · rw [if_pos hdump,if_pos hdump,printStackTrace_withBuffer]
    rfl
  · rw [if_neg hdump,if_neg hdump,printStackTrace_withBuffer]
    rfl

/-- A fast line is built from an empty buffer. -/
theorem startFastTextLine_withBuffer (view : SyscallView) (options : TraceRenderOptions) :
    startFastTextLine (withBuffer r b) view options=
      ((startFastTextLine r view options).1,(startFastTextLine r view options).2.1,
        withBuffer (startFastTextLine r view options).2.2 b) := by
  unfold startFastTextLine
  rw [List.take_zero,List.take_zero,timePrefix_withBuffer]

/-- A fast line does not depend on what the buffer holds. -/
theorem writePlainSyscallFast_withBuffer (ev : SyscallEvent V) (res : Result) :
    writePlainSyscallFast (withBuffer r b) ev res=writePlainSyscallFast r ev res := by
  have hasked : (if ev.unfinishedPrinted=true then (true,withBuffer r b)
      else (withBuffer r b).consumeSuspended ev.view.tid.toNat)=
      ((if ev.unfinishedPrinted=true then (true,r)
        else r.consumeSuspended ev.view.tid.toNat).1,
      withBuffer (if ev.unfinishedPrinted=true then (true,r)
        else r.consumeSuspended ev.view.tid.toNat).2 b) := by
    rw [consumeSuspended_withBuffer]
    split_ifs <;> rfl
  unfold writePlainSyscallFast
  dsimp only
  rw [hasked]
  dsimp only
  rw [startFastTextLine_withBuffer]
  rfl

/-- Printing a syscall does not depend on what the buffer holds. -/
theorem SameOutcome.printSyscallEvent {r s : TextRenderer} (h : SameOutcome r s)
    (texts : Texts V) (ev : SyscallEvent V) (res : Result) :
    SameOutcome (printSyscallEvent texts r ev res) (printSyscallEvent texts s ev res) := by
  have hempty : ∀ r : TextRenderer, SameOutcome (TextFastLines.printSyscallEvent texts r ev res)
      (TextFastLines.printSyscallEvent texts (withBuffer r []) ev res) := by
    intro r
    have hready : ((withBuffer r []).observeTaskComm ev).selectOutputPID ev.view.tid.toNat=
        withBuffer ((r.observeTaskComm ev).selectOutputPID ev.view.tid.toNat) [] := by
      unfold observeTaskComm
      split_ifs <;> rfl
    unfold TextFastLines.printSyscallEvent
    rw [hready]
    dsimp only
    rw [writePlainSyscallFast_withBuffer,printSyscallGeneral_withBuffer]
    cases writePlainSyscallFast
      ((r.observeTaskComm ev).selectOutputPID ev.view.tid.toNat) ev res <;> rfl
  have hr := hempty r
  have hs := hempty s
  have hsame : withBuffer r []=withBuffer s [] := h
  rw [hsame] at hr
  exact hr.trans hs.symm

end Buffers

section Shapes

variable {V : Type}

/-- Text of a call without arguments. -/
def callText (name : Bytes) (resumed : Bool) : Bytes :=
  if resumed then ascii "<... " ++ name ++ ascii " resumed>)" else name ++ ascii "()"

/-- Whether a line resumes an unfinished one, and the renderer once that was asked. -/
def asked (r : TextRenderer) (ev : SyscallEvent V) : Bool×TextRenderer :=
  if ev.unfinishedPrinted then (true,r) else r.consumeSuspended ev.view.tid.toNat

/-- The line of a syscall without arguments, behind a process number. -/
def plainLine (r : TextRenderer) (ev : SyscallEvent V) (pid : Bytes) : TextRenderer :=
  let before := ((asked r ev).2.timePrefix ev.view.enterTime).2
  let time := ((asked r ev).2.timePrefix ev.view.enterTime).1
  let line := r.syscallNumberPrefix ev.view ++ callText ev.syscallName (asked r ev).1
  before.write (time ++ pid ++ line ++ r.padding time pid line ++ ascii "= " ++
    decimalInt ev.view.ret.toInt ++ ascii "\n")

/-- The line of an unfinished syscall without arguments, behind a process number. -/
def unfinishedLine (r : TextRenderer) (ev : SyscallEvent V) (pid : Bytes) : TextRenderer :=
  let before := (r.timePrefix ev.view.enterTime).2
  let time := (r.timePrefix ev.view.enterTime).1
  before.write (time ++ pid ++ r.syscallNumberPrefix ev.view ++ ev.syscallName ++
    ascii "( <unfinished ...>" ++ ascii "\n")

theorem follows_asked (r : TextRenderer) (ev : SyscallEvent V) : Follows r (asked r ev).2 := by
  unfold asked
  split_ifs
  · exact ⟨rfl,rfl,rfl,rfl⟩
  · exact follows_consumeSuspended r _

/-- Both ways to find a syscall's name agree. -/
theorem effectiveSyscallName_eq (ev : SyscallEvent V) :
    ev.effectiveSyscallName=ev.syscallName := by
  unfold EventContext.syscallName
  split_ifs with hname
  · unfold EventContext.effectiveSyscallName
    rw [if_pos hname]
  · rfl

/-- A fast line starts with its time, its process number and its syscall number. -/
theorem startFastTextLine_eq (r : TextRenderer) (view : SyscallView) :
    startFastTextLine r view r.options=
      ((r.timePrefix view.enterTime).1 ++ fastPID r view.tid ++ r.syscallNumberPrefix view,
        ((r.timePrefix view.enterTime).1 ++ fastPID r view.tid ++
          r.syscallNumberPrefix view).length,
        (r.timePrefix view.enterTime).2) := by
  unfold startFastTextLine fastPID syscallNumberPrefix
  rw [List.take_zero]
  cases r.options.showPID <;> cases r.options.printSyscallNumber <;>
    simp [ascii]

/-- The fast gap is the general one. -/
theorem appendFastTextPadding_eq (r : TextRenderer) (time pid line buffer : Bytes)
    {prefixLen lineLen : ℕ} (h : prefixLen+lineLen=time.length+pid.length+line.length) :
    appendFastTextPadding buffer prefixLen lineLen r.options.alignCol=
      buffer ++ r.padding time pid line := by
  have htotal : (prefixLen : ℤ)+lineLen=time.length+pid.length+line.length := by
    exact_mod_cast h
  unfold appendFastTextPadding padding
  dsimp only
  by_cases hshort : (time.length : ℤ)+pid.length+line.length < r.options.alignCol
  · rw [if_neg (by omega),if_pos hshort]
    congr 3
    omega
  · rw [if_pos (by omega),if_neg hshort]
    rfl

/-- The lengths of a call's text. -/
theorem length_callText (name : Bytes) (resumed : Bool) :
    (callText name resumed).length=
      if resumed then name.length+(ascii "<...  resumed>)").length else name.length+2 := by
  unfold callText
  cases resumed with
  | true =>
    rw [if_pos rfl,if_pos rfl,List.length_append,List.length_append]
    have hfirst : (ascii "<... ").length=5 := rfl
    have hlast : (ascii " resumed>)").length=10 := rfl
    have hboth : (ascii "<...  resumed>)").length=15 := rfl
    omega
  | false =>
    rw [if_neg Bool.false_ne_true,if_neg Bool.false_ne_true,List.length_append]
    rfl

end Shapes

section Congruences

variable {r s : TextRenderer}

theorem Follows.fastPID (h : Follows r s) (tid : UInt32) : fastPID s tid=fastPID r tid := by
  unfold TextFastLines.fastPID
  rw [h.options]

theorem Follows.syscallNumberPrefix (h : Follows r s) (view : SyscallView) :
    s.syscallNumberPrefix view=r.syscallNumberPrefix view := by
  unfold TextRenderer.syscallNumberPrefix
  rw [h.options]

theorem Follows.padding (h : Follows r s) (time pid line : Bytes) :
    s.padding time pid line=r.padding time pid line := by
  unfold TextRenderer.padding
  rw [h.options]

theorem Follows.pidPrefix (h : Follows r s) (tid : ℤ) : s.pidPrefix tid=r.pidPrefix tid := by
  unfold TextRenderer.pidPrefix lookupComm
  rw [h.options,h.targetPID,h.taskComms]

end Congruences

section Fast

variable {V : Type} {r fast : TextRenderer} {ev : SyscallEvent V} {res : Result}

/-- What a fast line leaves out is not asked for. -/
structure PrefixAllowed (r : TextRenderer) : Prop where
  /-- No durations. -/
  printSyscallTime : r.options.printSyscallTime=false
  /-- No stacks. -/
  stackTrace : r.options.stackTrace=false
  /-- No instruction pointers. -/
  instructionPointer : r.options.instructionPointer=false
  /-- No names of tasks. -/
  decodePIDsComm : r.options.decodePIDsComm=false
  /-- No process numbers of other namespaces. -/
  decodePIDsPIDNS : r.options.decodePIDsPIDNS=false

theorem prefixAllowed (h : fastTextPrefixAllowed r.options=true) : PrefixAllowed r := by
  unfold fastTextPrefixAllowed at h
  simp only [Bool.and_eq_true,Bool.not_eq_true'] at h
  obtain ⟨⟨⟨⟨⟨⟨htime,hstack⟩,hpointer⟩,-⟩,-⟩,hcomm⟩,hns⟩ := h
  exact ⟨htime,hstack,hpointer,hcomm,hns⟩

/-- Where names of tasks are not shown, none are kept. -/
theorem PrefixAllowed.lookupComm (h : PrefixAllowed r) (pid : UInt32) :
    r.lookupComm pid=none := by
  have hcomms := r.comms
  rw [h.decodePIDsComm] at hcomms
  unfold TextRenderer.lookupComm
  cases htask : r.taskComms with
  | none => rfl
  | some comms =>
    rw [htask] at hcomms
    cases hcomms

/-- What holds of a syscall that the fast line shows. -/
structure Taken (r : TextRenderer) (ev : SyscallEvent V) (res : Result) : Prop where
  /-- There is an output. -/
  out : r.out≠none
  /-- There are no argument texts. -/
  argParts : res.argParts=[]
  /-- There is no dump. -/
  hexDumpStr : res.hexDumpStr=[]
  /-- There is no text behind the return value. -/
  returnDesc : res.returnDesc=[] ∧ res.showEmptyReturnDesc=false
  /-- The call succeeded. -/
  succeeded : ¬ev.view.ret < 0
  /-- Nothing else is asked for in front of the line. -/
  allowed : PrefixAllowed r
  /-- The return value is shown as its digits. -/
  returns : fastTextReturnAllowed ev r.options=true
  /-- The call has no form of its own. -/
  named : [ascii "exit",ascii "exit_group",ascii "nanosleep",
    ascii "clock_nanosleep"].contains ev.syscallName=false

/-- The fast line has the plain process number. -/
theorem syscallFast_shape (h : writePlainSyscallFast r ev res=some fast) :
    Taken r ev res ∧ SameOutcome fast (plainLine r ev (fastPID r ev.view.tid)) := by
  unfold writePlainSyscallFast at h
  by_cases hresult : r.out.isNone=true ∨ res.argParts≠[] ∨ res.hexDumpStr≠[] ∨
      res.returnDesc≠[] ∨ res.showEmptyReturnDesc=true
  · rw [if_pos hresult] at h
    cases h
  rw [if_neg hresult] at h
  by_cases hret : ev.view.ret < 0
  · rw [if_pos hret] at h
    cases h
  rw [if_neg hret] at h
  by_cases hoptions : fastTextPrefixAllowed r.options=false ∨
      fastTextReturnAllowed ev r.options=false
  · rw [if_pos hoptions] at h
    cases h
  rw [if_neg hoptions] at h
  dsimp only at h
  by_cases hname : ev.syscallName=[] ∨ [ascii "exit",ascii "exit_group",ascii "nanosleep",
      ascii "clock_nanosleep"].contains ev.syscallName=true
  · rw [if_pos hname] at h
    cases h
  rw [if_neg hname] at h
  simp only [not_or,Bool.not_eq_true,Bool.not_eq_false,not_not] at hresult hoptions hname
  obtain ⟨hout,hparts,hdump,hdesc,hshow⟩ := hresult
  refine ⟨⟨?_,hparts,hdump,⟨hdesc,hshow⟩,hret,prefixAllowed hoptions.1,hoptions.2,hname.2⟩,?_⟩
  · intro hnone
    rw [hnone] at hout
    cases hout
  have hasked := follows_asked r ev
  have htime := hasked.trans (follows_timePrefix (asked r ev).2 ev.view.enterTime)
  have hquestion : (if ev.unfinishedPrinted=true then (true,r)
      else r.consumeSuspended ev.view.tid.toNat)=asked r ev := rfl
  have hlength := length_callText ev.syscallName (asked r ev).1
  have hcalled : ∀ front : Bytes, (if (asked r ev).1=true then
      (front ++ ascii "<... " ++ ev.syscallName ++ ascii " resumed>)",
        ev.syscallName.length+(ascii "<...  resumed>)").length)
      else (front ++ ev.syscallName ++ ascii "()",ev.syscallName.length+2))=
      (front ++ callText ev.syscallName (asked r ev).1,
        (callText ev.syscallName (asked r ev).1).length) := by
    intro front
    rw [hlength]
    unfold callText
    cases (asked r ev).1 <;>
      simp only [if_true,Bool.false_eq_true,if_false,List.append_assoc]
  rw [hquestion,startFastTextLine_eq,hasked.fastPID,hasked.syscallNumberPrefix] at h
  dsimp only at h
  rw [hcalled,htime.options] at h
  dsimp only at h
  rw [appendFastTextPadding_eq r ((asked r ev).2.timePrefix ev.view.enterTime).1
    (TextFastLines.fastPID r ev.view.tid)
    (r.syscallNumberPrefix ev.view ++ callText ev.syscallName (asked r ev).1)] at h
  · rw [←Option.some_inj.mp h]
    unfold plainLine SameOutcome writeFastTextBuffer
    dsimp only
    simp only [List.append_assoc]
  · simp only [List.length_append]
    omega

/-- The fast unfinished line has the plain process number. -/
theorem unfinishedFast_shape (h : writePlainUnfinishedFast r ev res=some fast) :
    (r.out≠none ∧ res.argParts=[] ∧ PrefixAllowed r) ∧
      SameOutcome fast (unfinishedLine r ev (fastPID r ev.view.tid)) := by
  unfold writePlainUnfinishedFast at h
  by_cases hresult : r.out.isNone=true ∨ res.argParts≠[] ∨ ev.syscallName=ascii "nanosleep"
  · rw [if_pos hresult] at h
    cases h
  rw [if_neg hresult] at h
  by_cases hoptions : fastTextPrefixAllowed r.options=false
  · rw [if_pos hoptions] at h
    cases h
  rw [if_neg hoptions] at h
  dsimp only at h
  by_cases hname : ev.syscallName=[]
  · rw [if_pos hname] at h
    cases h
  rw [if_neg hname,startFastTextLine_eq] at h
  simp only [not_or,Bool.not_eq_true,Bool.not_eq_false,not_not] at hresult hoptions
  refine ⟨⟨?_,hresult.2.1,prefixAllowed hoptions⟩,?_⟩
  · intro hnone
    have hout := hresult.1
    rw [hnone] at hout
    cases hout
  · rw [←Option.some_inj.mp h]
    rfl

end Fast

section General

variable {V : Type} {r : TextRenderer} {ev : SyscallEvent V} {res : Result}

/-- Arguments without texts are shown as nothing. -/
theorem formatArguments_nil (r : TextRenderer) (view : SyscallView) (signature : Signature) :
    r.formatArguments view signature []=[] := by
  unfold formatArguments formatSyscallArguments
  rw [List.mapIdx_nil,if_pos (Or.inr rfl)]
  rfl

theorem PrefixAllowed.instructionPointerPrefix (h : PrefixAllowed r)
    (snapshot : TraceStackSnapshot) : r.instructionPointerPrefix snapshot=[] := by
  unfold TextRenderer.instructionPointerPrefix
  rw [if_pos h.instructionPointer]

theorem PrefixAllowed.of_options {s : TextRenderer} (h : PrefixAllowed r)
    (hoptions : s.options=r.options) : PrefixAllowed s := by
  exact ⟨by rw [hoptions]; exact h.printSyscallTime,by rw [hoptions]; exact h.stackTrace,
    by rw [hoptions]; exact h.instructionPointer,by rw [hoptions]; exact h.decodePIDsComm,
    by rw [hoptions]; exact h.decodePIDsPIDNS⟩

theorem PrefixAllowed.decoratePIDReturn (h : PrefixAllowed r) (name : Bytes) (ret : Int64)
    (text : Bytes) : r.decoratePIDReturn name ret text=text := by
  unfold TextRenderer.decoratePIDReturn decoratePID
  rw [h.lookupComm]
  split_ifs <;> rfl

theorem PrefixAllowed.durationSuffix (h : PrefixAllowed r) (duration : UInt64) :
    r.durationSuffix duration=[] := by
  unfold TextRenderer.durationSuffix
  rw [if_pos h.printSyscallTime]

theorem PrefixAllowed.printStackTrace (h : PrefixAllowed r) (snapshot : TraceStackSnapshot) :
    r.printStackTrace snapshot=r := by
  unfold TextRenderer.printStackTrace
  split
  · rfl
  · rw [if_pos (Or.inl h.stackTrace)]

/-- The return value of a syscall that the fast line shows is its digits. -/
theorem Taken.formatSyscallRet (h : Taken r ev res) (texts : Texts V) :
    formatSyscallRet texts ev.syscallName ev.view.ret res
      (ev.handlerContextForFormatting texts)=decimalInt ev.view.ret.toInt := by
  have hreturns := h.returns
  have hnamed := h.named
  unfold fastTextReturnAllowed at hreturns
  split_ifs at hreturns with hpaths htid
  simp only [List.contains_eq_mem,List.mem_cons,List.not_mem_nil,or_false,Bool.not_eq_true',
    decide_eq_false_iff_not,not_or] at hreturns hnamed
  have hshown : showsReturnPath ev.syscallName (ev.handlerContextForFormatting texts)=false := by
    unfold showsReturnPath EventContext.handlerContextForFormatting
    cases hctx : ev.handlerContext with
    | none => rfl
    | some ctx =>
      rw [hctx,Option.map_some,Option.some_inj] at hpaths
      cases hview : ev.hasReturnFDView <;> simp [hpaths]
  apply formatSyscallRet_plain
  unfold canAppendPlainSyscallReturn
  rw [if_neg (by simp [h.succeeded,h.returnDesc]),if_neg (by simp [hshown])]
  simp [hreturns,hnamed]

/-- The call of a syscall that the fast line shows has no arguments. -/
theorem Taken.syscallLine (h : Taken r ev res) (linePrefix : Bytes) :
    r.syscallLine ev linePrefix []=
      (linePrefix ++ callText ev.syscallName (asked r ev).1,(asked r ev).2) := by
  have hnamed := h.named
  simp only [List.contains_eq_mem,List.mem_cons,List.not_mem_nil,or_false,
    decide_eq_false_iff_not,not_or] at hnamed
  unfold TextRenderer.syscallLine asked callText
  rw [effectiveSyscallName_eq]
  cases ev.unfinishedPrinted with
  | true => simp only [if_true,List.append_assoc]
  | false =>
    simp only [Bool.false_eq_true,if_false]
    generalize r.consumeSuspended ev.view.tid.toNat = question
    obtain ⟨resumed,s⟩ := question
    cases resumed with
    | true => simp only [hnamed.2.2.1,if_false,if_true,List.append_assoc]
    | false => simp [ascii]

/-- The general line has the renderer's form of the process number. -/
theorem printSyscallGeneral_eq (h : Taken r ev res) (texts : Texts V) :
    r.printSyscallGeneral texts ev res=plainLine r ev (r.pidPrefix ev.view.tid.toNat) := by
  have hasked := follows_asked r ev
  have htime := hasked.trans (follows_timePrefix (asked r ev).2 ev.view.enterTime)
  have hallowed := h.allowed.of_options htime.options
  have hreturn : r.returnText texts ev res=decimalInt ev.view.ret.toInt := by
    unfold returnText
    rw [effectiveSyscallName_eq]
    dsimp only
    rw [if_neg (ne_true_of_eq_false h.allowed.decodePIDsPIDNS),h.allowed.decoratePIDReturn,
      h.formatSyscallRet]
  unfold printSyscallGeneral printReturned plainLine
  rw [hreturn,h.argParts,formatArguments_nil,h.hexDumpStr]
  dsimp only
  rw [h.allowed.instructionPointerPrefix,List.nil_append,h.syscallLine]
  dsimp only
  rw [if_pos rfl,hallowed.durationSuffix,htime.pidPrefix,htime.padding,List.append_nil]
  have hwritten : ∀ text, PrefixAllowed
      (((asked r ev).2.timePrefix ev.view.enterTime).2.write text) :=
    fun text => hallowed.of_options rfl
  exact (hwritten _).printStackTrace _

/-- The general unfinished line has the renderer's form of the process number. -/
theorem printUnfinishedGeneral_eq (hparts : res.argParts=[]) (hallowed : PrefixAllowed r) :
    r.printUnfinishedGeneral ev res=unfinishedLine r ev (r.pidPrefix ev.view.tid.toNat) := by
  have htime := follows_timePrefix r ev.view.enterTime
  unfold printUnfinishedGeneral unfinishedLine
  rw [effectiveSyscallName_eq,hparts]
  dsimp only
  rw [List.take_nil,ite_self,formatArguments_nil,hallowed.instructionPointerPrefix,
    htime.pidPrefix]
  simp [ascii]

end General

section Differences

/-- Behind a text without a byte, the byte's first place moves. -/
theorem append_ne_of_mem {c : UInt8} {u x s t : Bytes} (hu : c∉u) (hne : u≠[]) (hx : c∈x) :
    u ++ (x ++ s)≠x ++ t := by
  intro h
  have hfirst := congrArg (List.idxOf c) h
  rw [List.idxOf_append_of_notMem hu,List.idxOf_append_of_mem hx,
    List.idxOf_append_of_mem hx] at hfirst
  have hpositive := List.length_pos_iff.mpr hne
  omega

/-- A process number is digits and blanks, and starts with a digit. -/
theorem column_bytes (n : ℕ) :
    (∀ b∈padRight 5 (decimal n) ++ [32], b=32 ∨ 48 ≤ b ∧ b ≤ 57) ∧
      ∃ first rest, padRight 5 (decimal n) ++ [32]=first::rest ∧ 48 ≤ first ∧ first ≤ 57 := by
  obtain ⟨hdigits,hne,-⟩ := decimal_digits n
  have hdigit : ∀ b∈decimal n, 48 ≤ b ∧ b ≤ 57 := by
    intro b hb
    have hb := hdigits b hb
    unfold JsonText.isDigit at hb
    simpa using hb
  constructor
  · intro b hb
    unfold padRight at hb
    simp only [List.mem_append,List.mem_replicate,List.mem_singleton] at hb
    rcases hb with (hb | ⟨-,hb⟩) | hb
    · exact Or.inr (hdigit b hb)
    · exact Or.inl hb
    · exact Or.inl hb
  · unfold padRight
    obtain ⟨first,rest,hfirst⟩ := List.exists_cons_of_ne_nil hne
    rw [hfirst]
    exact ⟨first,_,rfl,hdigit first (by rw [hfirst]; exact List.mem_cons_self)⟩

/-- Without the bracketed form, both process numbers are the plain column. -/
theorem PrefixAllowed.pidPrefix {r : TextRenderer} (h : PrefixAllowed r)
    (hplain : ¬BracketsPID r) (tid : UInt32) :
    r.pidPrefix tid.toNat=fastPID r tid := by
  unfold TextRenderer.pidPrefix fastPID
  by_cases hshow : r.options.showPID=true
  · have hplain : ¬(r.options.followForks=true ∧ r.options.alwaysShowPID=false ∧
        0 < r.targetPID) := fun hbracket => hplain ⟨hshow,hbracket⟩
    have hdecimal : decimalInt (tid.toNat : ℤ)=decimal tid.toNat := rfl
    rw [if_pos hshow,if_pos hshow,if_neg hplain,h.lookupComm,hdecimal]
    rfl
  · rw [if_neg hshow,if_neg hshow]

/-- With the bracketed form, the rest of a line cannot make up for the process number. -/
theorem BracketsPID.line_ne {r : TextRenderer} (h : BracketsPID r) (tid : UInt32) {c : UInt8}
    (hblank : c≠32) (hdigit : ¬(48 ≤ c ∧ c ≤ 57)) {x s t : Bytes} (hx : c∈x) :
    fastPID r tid ++ (x ++ s)≠r.pidPrefix tid.toNat ++ (x ++ t) := by
  obtain ⟨hbytes,first,rest,hfirst,hlow,hhigh⟩ := column_bytes tid.toNat
  have hfast : fastPID r tid=padRight 5 (decimal tid.toNat) ++ [32] := by
    unfold fastPID
    rw [if_pos h.1]
  unfold TextRenderer.pidPrefix
  rw [if_pos h.1,if_pos h.2,hfast]
  by_cases htarget : (tid.toNat : ℤ)=r.targetPID
  · rw [if_pos htarget,List.nil_append]
    refine append_ne_of_mem ?_ (by rw [hfirst]; exact List.cons_ne_nil _ _) hx
    intro hmem
    rcases hbytes c hmem with hc | hc
    · exact hblank hc
    · exact hdigit hc
  · rw [if_neg htarget,hfirst]
    intro hsame
    have hhead := congrArg List.head? hsame
    have hbracket : first=91 := Option.some_inj.mp hhead
    rw [hbracket] at hhigh
    exact absurd hhigh (by decide)

/-- Renderers that write after the same start differ in what they write. -/
theorem sameOutcome_write_iff {r : TextRenderer} (hout : r.out≠none) (a b : Bytes) :
    SameOutcome (r.write a) (r.write b) ↔ a=b := by
  constructor
  · intro h
    have hwritten := h.out
    obtain ⟨out,hsome⟩ := Option.ne_none_iff_exists'.mp hout
    unfold TextRenderer.write at hwritten
    dsimp only at hwritten
    rw [hsome,Option.map_some,Option.map_some,Option.some_inj] at hwritten
    have hbytes := List.append_cancel_left (congrArg Output.written hwritten)
    exact List.map_injective_iff.mpr (fun x y hxy => (Prod.mk.injEq _ _ _ _ ▸ hxy).2) hbytes
  · intro h
    rw [h]
    rfl

/-- Two lines behind their own process numbers agree exactly if the numbers do. -/
theorem plainLine_iff {V : Type} {r : TextRenderer} (hout : r.out≠none)
    (hallowed : PrefixAllowed r) (ev : SyscallEvent V) :
    SameOutcome (plainLine r ev (fastPID r ev.view.tid))
        (plainLine r ev (r.pidPrefix ev.view.tid.toNat)) ↔ ¬BracketsPID r := by
  constructor
  · intro hsame hbracket
    have hfollows := (follows_asked r ev).trans
      (follows_timePrefix (asked r ev).2 ev.view.enterTime)
    unfold plainLine at hsame
    dsimp only at hsame
    rw [sameOutcome_write_iff (by rw [hfollows.out]; exact hout)] at hsame
    simp only [List.append_assoc] at hsame
    have hcall : (41 : UInt8)∈callText ev.syscallName (asked r ev).1 := by
      unfold callText
      cases (asked r ev).1 <;> simp [ascii]
    have hline : (41 : UInt8)∈
        r.syscallNumberPrefix ev.view ++ callText ev.syscallName (asked r ev).1 :=
      List.mem_append_right _ hcall
    have hrest := List.append_cancel_left hsame
    rw [←List.append_assoc (r.syscallNumberPrefix ev.view),
      ←List.append_assoc (r.syscallNumberPrefix ev.view)] at hrest
    exact hbracket.line_ne ev.view.tid (by decide) (by decide) hline hrest
  · intro hplain
    rw [hallowed.pidPrefix hplain]
    rfl

/-- Two unfinished lines behind their own process numbers agree exactly if the numbers do. -/
theorem unfinishedLine_iff {V : Type} {r : TextRenderer} (hout : r.out≠none)
    (hallowed : PrefixAllowed r) (ev : SyscallEvent V) :
    SameOutcome (unfinishedLine r ev (fastPID r ev.view.tid))
        (unfinishedLine r ev (r.pidPrefix ev.view.tid.toNat)) ↔ ¬BracketsPID r := by
  constructor
  · intro hsame hbracket
    have hfollows := follows_timePrefix r ev.view.enterTime
    unfold unfinishedLine at hsame
    dsimp only at hsame
    rw [sameOutcome_write_iff (by rw [hfollows.out]; exact hout)] at hsame
    simp only [List.append_assoc] at hsame
    have hrest := List.append_cancel_left hsame
    have hline : (40 : UInt8)∈r.syscallNumberPrefix ev.view ++
        (ev.syscallName ++ (ascii "( <unfinished ...>" ++ ascii "\n")) := by
      simp [ascii]
    rw [←List.append_nil (r.syscallNumberPrefix ev.view ++ _)] at hrest
    exact hbracket.line_ne ev.view.tid (by decide) (by decide) hline hrest
  · intro hplain
    rw [hallowed.pidPrefix hplain]
    rfl

end Differences

section Agreement

variable {V : Type} (texts : Texts V) (r : TextRenderer) (ev : SyscallEvent V) (res : Result)

/-- A fast line, where one is written, is the general one exactly when the bracketed form of
process numbers is not asked for. -/
theorem fast_lines_agree_iff :
    (∀ fast, writePlainSyscallFast r ev res=some fast →
      (SameOutcome fast (r.printSyscallGeneral texts ev res) ↔ ¬BracketsPID r)) ∧
    ∀ fast, writePlainUnfinishedFast r ev res=some fast →
      (SameOutcome fast (r.printUnfinishedGeneral ev res) ↔ ¬BracketsPID r) := by
  constructor
  · intro fast hfast
    obtain ⟨htaken,hsame⟩ := syscallFast_shape hfast
    rw [printSyscallGeneral_eq htaken,←plainLine_iff htaken.out htaken.allowed ev]
    unfold SameOutcome at hsame ⊢
    rw [hsame]
  · intro fast hfast
    obtain ⟨⟨hout,hparts,hallowed⟩,hsame⟩ := unfinishedFast_shape hfast
    rw [printUnfinishedGeneral_eq hparts hallowed,←unfinishedLine_iff hout hallowed ev]
    unfold SameOutcome at hsame ⊢
    rw [hsame]

/-- A command line asks for the bracketed form if it follows children into one output that is
not a file, and does not always show process numbers. -/
theorem bracketsPID_newTextRenderer (opts : CliOptions) (out : Option Output)
    (state : Option (FiniteMaps.GoMap ℤ Bytes)) (timeFormatter : Option TimeFormatter)
    (stackTraces : Option (UInt32 → Option (Vector UInt64 127)))
    (resolver : Option (UInt64 → Bytes)) (targetPID : ℤ) (self : UInt32) :
    BracketsPID (newTextRenderer out (newTraceRenderOptions opts) state timeFormatter stackTraces
      resolver targetPID self) ↔
      opts.followForks=true ∧ opts.outputSeparate=false ∧ opts.alwaysShowPID=false ∧
        opts.outFile=[] ∧ 0 < targetPID := by
  unfold BracketsPID newTextRenderer newTraceRenderOptions
  dsimp only
  cases opts.followForks <;> cases opts.outputSeparate <;> cases opts.alwaysShowPID <;> simp

/-- Renderer that follows children of process 100. -/
def followingRenderer : TextRenderer :=
  newTextRenderer (some {}) (newTraceRenderOptions {followForks := true}) none none none none 100 1

/-- Process 100 asks for its number. -/
def getpidEvent : SyscallEvent Unit where
  metaName := ascii "getpid"
  returnFDView := ()
  view := {pid := 100, tid := 100, sysID := 39, ret := 100}

/-- Texts that know nothing. -/
def noTexts : Texts Unit where
  formatFdWithPath _ fd := decimalInt fd.toInt
  errnoText _ := []
  errnoName _ := none
  emptyView _ := true

/-- Renderer that always shows process numbers. -/
def showingRenderer : TextRenderer :=
  newTextRenderer (some {}) (newTraceRenderOptions {alwaysShowPID := true}) none none none none
    100 1

/-- A renderer that always shows process numbers writes the general line fast. -/
theorem fast_lines_agree_with_every_pid :
    ∃ fast, writePlainSyscallFast showingRenderer getpidEvent {}=some fast ∧
      SameOutcome fast (showingRenderer.printSyscallGeneral noTexts getpidEvent {}) := by
  have hplain : ¬BracketsPID showingRenderer := by
    unfold showingRenderer
    rw [bracketsPID_newTextRenderer]
    simp
  exact ⟨_,rfl,((fast_lines_agree_iff noTexts showingRenderer getpidEvent {}).1 _ rfl).mpr hplain⟩

/-- The fast line of the command has a process number where the general one has none. -/
theorem fast_line_shows_command_pid :
    ∃ fast, writePlainSyscallFast followingRenderer getpidEvent {}=some fast ∧
      (fast.out.map fun out => out.written.map Prod.snd)=
        some (ascii "100   getpid()                          = 100\n") ∧
      ((followingRenderer.printSyscallGeneral noTexts getpidEvent {}).out.map fun out =>
        out.written.map Prod.snd)=some (ascii "getpid()                                = 100\n") ∧
      ¬SameOutcome fast (followingRenderer.printSyscallGeneral noTexts getpidEvent {}) := by
  have hfast : ((writePlainSyscallFast followingRenderer getpidEvent {}).map fun fast =>
      fast.out.map fun out => out.written.map Prod.snd)=
      some (some (ascii "100   getpid()                          = 100\n")) := by
    decide
  have hgeneral : ((followingRenderer.printSyscallGeneral noTexts getpidEvent {}).out.map
      fun out => out.written.map Prod.snd)=
      some (ascii "getpid()                                = 100\n") := by
    decide
  obtain ⟨fast,hsome,hwritten⟩ := Option.map_eq_some_iff.mp hfast
  refine ⟨fast,hsome,hwritten,hgeneral,?_⟩
  intro hsame
  rw [hsame.out,hgeneral] at hwritten
  exact absurd (Option.some_inj.mp hwritten) (by decide)

end Agreement

end StraceGo.TextFastLines

import StraceGo.BufferedOutput
import StraceGo.EventIntegrity
import StraceGo.EventTaskLifecycle
import StraceGo.JsonSyscallAgreement

/-!
# The batching writer of JSON records

Syscall lines gather in a batch that is written out when it is large, before
every other record and on a flush; other records go through the standard encoder.
Both go to one trace output, which may hold a buffered writer of its own. The
bytes that reached the underlying writer, the buffered bytes and the batch are, in
this order, all lines in the order of the calls.
-/

namespace StraceGo.JsonEventWriter

open Utf8Text BufferedOutput JsonSyscallEncoder JsonSyscallAgreement
open EventEnvelope EventIntegrity EventTaskLifecycle

section Output

/-- Failures of the trace output. -/
inductive OutputError where
  | unavailable
  | closed
  | bufferSize
  | shortWrite
  | write (cause : OutputError)
  | flush (cause : OutputError)

/-- Where the trace output writes: to the underlying writer, here by its list of writes, or to a
buffered writer in front of it. -/
inductive Writer where
  | underlying (writes : List Bytes)
  | buffered (writer : BufferedWriter UInt8)

namespace Writer

/-- Write a piece; the underlying writer takes everything. -/
def write : Writer → Bytes → Writer×ℕ
  | .underlying writes,p => (.underlying (writes ++ [p]),p.length)
  | .buffered writer,p => (.buffered (writer.write p).1,(writer.write p).2)

/-- Flush the buffered writer. -/
def flush : Writer → Writer
  | .underlying writes => .underlying writes
  | .buffered writer => .buffered writer.flush

/-- Bytes that reached the underlying writer. -/
def reached : Writer → Bytes
  | .underlying writes => writes.flatten
  | .buffered writer => writer.writes.flatten

/-- All bytes that were written. -/
def contents : Writer → Bytes
  | .underlying writes => writes.flatten
  | .buffered writer => writer.contents

end Writer

/-- The trace output. -/
structure TraceOutput where
  /-- Where it writes. -/
  writer : Writer := .underlying []
  /-- Outcome of closing the file, if there is one. -/
  closer : Option (Option OutputError) := none
  /-- Outcome of the process behind a pipe, if there is one. -/
  command : Option (Option OutputError) := none
  /-- Whether the underlying writer came with a flush of its own. -/
  ownFlush : Bool := false
  /-- Whether the output is closed. -/
  closed : Bool := false
  /-- First failure of a write. -/
  writeErr : Option OutputError := none
  /-- First failure of a flush. -/
  flushErr : Option OutputError := none
  /-- Failures at the close. -/
  closeErr : List OutputError := []

namespace TraceOutput

variable (o : TraceOutput)

/-- Whether the output can be flushed. -/
def hasFlush : Bool :=
  match o.writer with
  | .underlying _ => o.ownFlush
  | .buffered _ => true

/-- Put a buffered writer in front of the underlying one. -/
def enableBuffer (size : ℤ) : TraceOutput×Option OutputError :=
  if o.closed then (o,some .closed)
  else if size < 1 then (o,some .bufferSize)
  else if o.hasFlush then (o,none)
  else
    match o.writer with
    | .underlying writes =>
      ({o with writer := .buffered {size := size.toNat, writes := writes}},none)
    | .buffered _ => (o,none)

/-- Write a piece. -/
def write (p : Bytes) : TraceOutput×ℕ×Option OutputError :=
  if o.closed then (o,0,some .closed)
  else
    let (writer,n) := o.writer.write p
    let err := if n≠p.length then some .shortWrite else none
    let writeErr := match err,o.writeErr with
      | some cause,none => some (.write cause)
      | _,writeErr => writeErr
    ({o with writer := writer, writeErr := writeErr},n,err)

/-- Flush what is buffered; neither flush of a writer that never fails fails. -/
def flush : TraceOutput×Option OutputError :=
  if o.hasFlush=false then (o,none)
  else if o.closed then (o,some .closed)
  else
    match o.flushErr with
    | some err => (o,some err)
    | none => ({o with writer := o.writer.flush},none)

/-- Write a batch behind what is buffered, and pass it on. -/
def writeBatch (p : Bytes) : TraceOutput×ℕ×Option OutputError :=
  if o.closed then (o,0,some .closed)
  else
    let (o,flushErr) := if o.hasFlush then o.flush else (o,none)
    match flushErr with
    | some err => (o,0,some err)
    | none =>
      let (o,n,err) := o.write p
      if o.hasFlush then
        let (o,flushErr) := o.flush
        (o,n,err <|> flushErr)
      else (o,n,err)

/-- Close the output. -/
def close : TraceOutput×List OutputError :=
  if o.closed then (o,o.closeErr)
  else
    let (o,flushErr) := o.flush
    let closeErr := o.writeErr.toList ++ flushErr.toList ++ (o.closer.getD none).toList ++
      (o.command.getD none).toList
    ({o with closed := true, closeErr := closeErr},closeErr)

end TraceOutput

/-- A new trace output over an underlying writer. -/
def newTraceOutput (closer command : Option (Option OutputError)) (ownFlush : Bool) :
    TraceOutput where
  closer := closer
  command := command
  ownFlush := ownFlush

end Output

section Records

/-- JSON record of a lifecycle event. -/
structure JsonLifecycleEvent where
  /-- Integrity stamp. -/
  integrity : TraceRecordIntegrity
  /-- Record type. -/
  type : String
  /-- Wire version. -/
  eventVersion : UInt16
  /-- Name of the record kind. -/
  eventType : String
  /-- Record kind. -/
  eventTypeID : EventType
  /-- Flag bits. -/
  eventFlags : UInt32
  /-- Name of the action. -/
  action : String
  /-- Action. -/
  actionID : UInt32
  /-- Process. -/
  pid : UInt32
  /-- Thread. -/
  tid : UInt32
  /-- Thread of the task. -/
  taskTID : UInt32 := 0
  /-- Process of the task. -/
  taskTGID : UInt32 := 0
  /-- Forking thread of the task. -/
  parentTID : UInt32 := 0
  /-- Whether the task has not exited. -/
  alive : Bool := false
  /-- Whether the task has completed an exec. -/
  execed : Bool := false
  /-- Executable of the task. -/
  taskExecutable : String := ""
  /-- Executable of the event. -/
  filename : String := ""
  /-- First argument. -/
  arg0 : UInt64
  /-- Second argument. -/
  arg1 : UInt64
  /-- Time. -/
  timeNS : UInt64

/-- JSON record of a session that is ready. -/
structure JsonReadyEvent where
  /-- Record type. -/
  type : String
  /-- Started process. -/
  targetPID : Int64
  /-- Attached processes. -/
  attachPIDs : List Int64
  /-- Start of the setup. -/
  startTimeNS : UInt64
  /-- Time. -/
  timeNS : UInt64

/-- JSON record of a phase. -/
structure JsonPhaseEvent where
  /-- Record type. -/
  type : String
  /-- Name of the phase. -/
  phase : String
  /-- Start of the phase. -/
  startTimeNS : UInt64
  /-- Duration of the phase. -/
  durationNS : UInt64
  /-- Time. -/
  timeNS : UInt64

/-- Records that go through the standard encoder. -/
inductive JsonRecord where
  | lifecycle (event : JsonLifecycleEvent)
  | ready (event : JsonReadyEvent)
  | phase (event : JsonPhaseEvent)
  | integrity (type : String) (snapshot : TraceIntegritySnapshot)

/-- Name of a record kind. -/
def eventTypeName : EventType → String
  | .enter => "enter"
  | .exit => "exit"
  | .lifecycle => "lifecycle"
  | .signal => "unknown"
  | .unsupportedABI => "unknown"

/-- Name of a lifecycle action. -/
def lifecycleActionName (action : UInt32) : String :=
  if action=lifecycleFork then "fork"
  else if action=lifecycleExec then "exec"
  else if action=lifecycleExit then "exit"
  else if action=lifecycleFree then "free"
  else "unknown"

/-- Record of a lifecycle event and its task. -/
def newJSONLifecycleEvent (view : LifecycleEventView) (task : Option TaskState) :
    JsonLifecycleEvent :=
  let ev : JsonLifecycleEvent := {
    integrity := view.integrity
    type := "lifecycle"
    eventVersion := view.eventVersion
    eventType := eventTypeName view.eventType
    eventTypeID := view.eventType
    eventFlags := view.eventFlags
    action := lifecycleActionName view.action
    actionID := view.action
    pid := view.pid
    tid := view.tid
    arg0 := view.args.get 0
    arg1 := view.args.get 1
    timeNS := view.enterTime }
  let ev := if view.action=lifecycleExec then {ev with filename := view.snapshotText} else ev
  match task with
  | none => ev
  | some task =>
    {ev with
      taskTID := task.tid
      taskTGID := task.tgid
      parentTID := task.parentTID
      alive := task.alive
      execed := task.execed
      taskExecutable := task.executable}

/-- Record of a session that is ready. -/
def newJSONReadyEventAt (targetPID : Int64) (attachPIDs : List Int64)
    (startTimeNS timeNS : UInt64) : JsonReadyEvent where
  type := "ready"
  targetPID := targetPID
  attachPIDs := attachPIDs
  startTimeNS := startTimeNS
  timeNS := timeNS

/-- Record of a phase with its start. -/
def newJSONPhaseEventAt (phase : String) (startTimeNS timeNS : UInt64) : JsonPhaseEvent where
  type := "phase"
  phase := phase
  startTimeNS := startTimeNS
  durationNS := if 0 < startTimeNS ∧ startTimeNS ≤ timeNS then timeNS-startTimeNS else 0
  timeNS := timeNS

/-- Record of a phase. -/
def newJSONPhaseEvent (phase : String) (timeNS : UInt64) : JsonPhaseEvent :=
  newJSONPhaseEventAt phase 0 timeNS

end Records

section Writers

/-- The writer of JSON records. -/
structure JSONEventWriter where
  /-- The trace output. -/
  out : TraceOutput
  /-- Failure of the standard encoder, which then writes nothing more. -/
  encoderErr : Option OutputError := none
  /-- Whether the output can be flushed. -/
  flusher : Bool
  /-- Whether the output takes batches. -/
  batchWriter : Bool
  /-- Batch of syscall lines. -/
  syscallBuffer : Bytes := []
  /-- Bytes of syscall lines. -/
  syscallBytesWritten : UInt64 := 0
  /-- Writes of syscall lines. -/
  syscallWriteCalls : UInt64 := 0
  /-- Failed writes of syscall lines. -/
  syscallWriteErrors : UInt64 := 0
  /-- Time of the measured writes. -/
  syscallWriteTimeNS : UInt64 := 0
  /-- Number of the measured writes. -/
  syscallWriteSamples : UInt64 := 0
  /-- Readings of the clock, if writes are measured. -/
  clock : Option (ℕ → UInt64) := none
  /-- Readings so far. -/
  readings : ℕ := 0

/-- Size of the buffer of the trace output. -/
def traceOutputBufferSize : ℕ := 64*1024

/-- Size from which a batch is written out. -/
def jsonSyscallBatchSize : ℕ := traceOutputBufferSize+1

/-- A new writer; a trace output can be flushed and takes batches. -/
def newJSONEventWriter (out : TraceOutput) (clock : Option (ℕ → UInt64)) : JSONEventWriter where
  out := out
  flusher := true
  batchWriter := true
  clock := clock

namespace JSONEventWriter

variable (w : JSONEventWriter)

/-- Read the clock in front of a write. -/
def beginSyscallWrite : JSONEventWriter×Option UInt64 :=
  match w.clock with
  | none => (w,none)
  | some clock => ({w with readings := w.readings+1},some (clock w.readings))

/-- Read the clock behind a write. -/
def finishSyscallWrite (start : Option UInt64) : JSONEventWriter :=
  match w.clock,start with
  | some clock,some startNS =>
    let endNS := clock w.readings
    let w := {w with readings := w.readings+1}
    if endNS < startNS then w
    else
      {w with
        syscallWriteSamples := w.syscallWriteSamples+1
        syscallWriteTimeNS := w.syscallWriteTimeNS+(endNS-startNS)}
  | _,_ => w

/-- Count a write of syscall lines. -/
def recordSyscallWrite (n : ℕ) (err : Option OutputError) : JSONEventWriter :=
  let w := {w with syscallWriteCalls := w.syscallWriteCalls+1}
  let w := if 0 < n then
    {w with syscallBytesWritten := w.syscallBytesWritten+UInt64.ofNat n} else w
  if err.isSome then {w with syscallWriteErrors := w.syscallWriteErrors+1} else w

/-- Write a single line to an output that takes no batches. -/
def writeSyscallBuffer : JSONEventWriter :=
  if w.syscallBuffer.isEmpty then w
  else
    let (w,start) := w.beginSyscallWrite
    let (out,n,err) := w.out.write w.syscallBuffer
    (({w with out := out}).recordSyscallWrite n err).finishSyscallWrite start

/-- Write the batch. -/
def flushSyscallBuffer : JSONEventWriter :=
  if w.syscallBuffer.isEmpty then w
  else
    let (w,start) := w.beginSyscallWrite
    let (out,n,err) := if w.batchWriter then w.out.writeBatch w.syscallBuffer
      else w.out.write w.syscallBuffer
    let w := (({w with out := out}).recordSyscallWrite n err).finishSyscallWrite start
    {w with syscallBuffer := []}

/-- Write the batch once it is large. -/
def flushSyscallBufferIfFull : JSONEventWriter :=
  if w.syscallBuffer.length < jsonSyscallBatchSize then w else w.flushSyscallBuffer

/-- Flush the batch and the output. -/
def flush : JSONEventWriter×Option OutputError :=
  let w := if w.batchWriter then w.flushSyscallBuffer else w
  if w.flusher=false then (w,none)
  else
    let (out,err) := w.out.flush
    ({w with out := out},err)

variable {V : Type} (texts : Texts V)

/-- Write the line of a raw record. -/
def writeRaw (ev : EventContext V) : JSONEventWriter :=
  if w.batchWriter=false then
    ({w with syscallBuffer := appendJSONRawSyscallEvent texts [] ev}).writeSyscallBuffer
  else
    ({w with
      syscallBuffer := appendJSONRawSyscallEvent texts w.syscallBuffer ev}).flushSyscallBufferIfFull

/-- Write the line of a decoded record. -/
def writeDecoded (ev : EventContext V) (res : Result) : JSONEventWriter :=
  if w.batchWriter=false then
    ({w with syscallBuffer := appendJSONDecodedSyscallEvent texts [] ev res}).writeSyscallBuffer
  else
    ({w with
      syscallBuffer :=
        appendJSONDecodedSyscallEvent texts w.syscallBuffer ev res}).flushSyscallBufferIfFull

variable (marshal : JsonRecord → Option Bytes)

/-- Encode a record to the output in one write; a record without a text writes nothing. -/
def encoderEncode (record : JsonRecord) : JSONEventWriter :=
  match w.encoderErr,marshal record with
  | none,some line =>
    let (out,_,err) := w.out.write line
    {w with out := out, encoderErr := err}
  | _,_ => w

/-- Encode a record behind the batch. -/
def encode (record : JsonRecord) : JSONEventWriter :=
  (if w.batchWriter then w.flushSyscallBuffer else w).encoderEncode marshal record

/-- Write a lifecycle event. -/
def writeLifecycle (view : LifecycleEventView) (task : Option TaskState) : JSONEventWriter :=
  w.encode marshal (.lifecycle (newJSONLifecycleEvent view task))

/-- Write that the session is ready. -/
def writeReadyAt (targetPID : Int64) (attachPIDs : List Int64) (startTimeNS timeNS : UInt64) :
    JSONEventWriter :=
  w.encode marshal (.ready (newJSONReadyEventAt targetPID attachPIDs startTimeNS timeNS))

/-- Write a phase. -/
def writePhase (phase : String) (timeNS : UInt64) : JSONEventWriter :=
  w.encode marshal (.phase (newJSONPhaseEvent phase timeNS))

/-- Write a phase with its start. -/
def writePhaseAt (phase : String) (startTimeNS timeNS : UInt64) : JSONEventWriter :=
  w.encode marshal (.phase (newJSONPhaseEventAt phase startTimeNS timeNS))

/-- Report the integrity of the session. -/
def reportIntegrity (snapshot : TraceIntegritySnapshot) : JSONEventWriter :=
  w.encode marshal (.integrity "integrity" snapshot)

end JSONEventWriter

end Writers

section OutputContents

theorem Writer.write_contents (writer : Writer) (p : Bytes) :
    (writer.write p).1.contents=writer.contents ++ p ∧ (writer.write p).2=p.length := by
  cases writer with
  | underlying writes => simp [Writer.write,Writer.contents]
  | buffered writer => exact writer.write_contents p

theorem Writer.flush_contents (writer : Writer) :
    writer.flush.contents=writer.contents ∧ writer.flush.reached=writer.contents := by
  cases writer with
  | underlying writes => exact ⟨rfl,rfl⟩
  | buffered writer => exact ⟨writer.flush_contents,writer.flush_writes⟩

namespace TraceOutput

/-- An output that is open and has not failed. -/
structure Sound (o : TraceOutput) : Prop where
  /-- It is open. -/
  isOpen : o.closed=false
  /-- No write has failed. -/
  written : o.writeErr=none
  /-- No flush has failed. -/
  flushed : o.flushErr=none

variable {o : TraceOutput}

/-- What an operation on an output does: it keeps it sound and writes some bytes. -/
structure Writes (o next : TraceOutput) (p : Bytes) : Prop where
  /-- The output stays sound. -/
  sound : next.Sound
  /-- The bytes stand behind what was written. -/
  contents : next.writer.contents=o.writer.contents ++ p

theorem Writes.trans {next last : TraceOutput} {p q : Bytes} (h : Writes o next p)
    (hlast : Writes next last q) : Writes o last (p ++ q) where
  sound := hlast.sound
  contents := by rw [hlast.contents,h.contents,List.append_assoc]

theorem Sound.writes_nil (h : o.Sound) : Writes o o [] := ⟨h,(List.append_nil _).symm⟩

/-- A write takes the whole piece and does not fail. -/
theorem Sound.write (h : o.Sound) (p : Bytes) :
    ∃ next, o.write p=(next,p.length,none) ∧ Writes o next p := by
  obtain ⟨hcontents,hlength⟩ := o.writer.write_contents p
  refine ⟨{o with writer := (o.writer.write p).1},?_,⟨h.isOpen,h.written,h.flushed⟩,hcontents⟩
  unfold TraceOutput.write
  rw [if_neg (by simp [h.isOpen])]
  simp only [hlength,h.written,ne_eq,not_true_eq_false,if_false]

/-- A flush does not fail and leaves nothing buffered. -/
theorem Sound.flush (h : o.Sound) :
    ∃ next, o.flush=(next,none) ∧ Writes o next [] ∧ next.writer.reached=next.writer.contents := by
  obtain ⟨hcontents,hreached⟩ := o.writer.flush_contents
  unfold TraceOutput.flush
  by_cases hflush : o.hasFlush=false
  · rw [if_pos hflush]
    refine ⟨o,rfl,h.writes_nil,?_⟩
    unfold TraceOutput.hasFlush at hflush
    cases hwriter : o.writer with
    | underlying writes => rfl
    | buffered writer =>
      rw [hwriter] at hflush
      exact Bool.noConfusion hflush
  · rw [if_neg hflush,if_neg (by simp [h.isOpen]),h.flushed]
    refine ⟨_,rfl,⟨⟨h.isOpen,h.written,rfl⟩,?_⟩,?_⟩
    · rw [hcontents,List.append_nil]
    · rw [hreached,hcontents]

/-- A batch is taken whole and does not fail. -/
theorem Sound.writeBatch (h : o.Sound) (p : Bytes) :
    ∃ next, o.writeBatch p=(next,p.length,none) ∧ Writes o next p := by
  have hdrain : ∃ next, (if o.hasFlush then o.flush else (o,none))=(next,none) ∧
      Writes o next [] := by
    split_ifs
    · obtain ⟨next,hnext,hwrites,-⟩ := h.flush
      exact ⟨next,hnext,hwrites⟩
    · exact ⟨o,rfl,h.writes_nil⟩
  obtain ⟨drained,hdrained,hnone⟩ := hdrain
  obtain ⟨written,hwritten,hwrites⟩ := hnone.sound.write p
  have hall := hnone.trans hwrites
  unfold TraceOutput.writeBatch
  rw [if_neg (by simp [h.isOpen]),hdrained]
  dsimp only
  rw [hwritten]
  dsimp only
  split_ifs
  · obtain ⟨next,hnext,hflush,-⟩ := hwrites.sound.flush
    rw [hnext]
    refine ⟨next,rfl,?_⟩
    simpa using hall.trans hflush
  · exact ⟨written,rfl,hall⟩

/-- Closing a sound output lets everything reach the underlying writer. -/
theorem Sound.close (h : o.Sound) : o.close.1.writer.reached=o.writer.contents := by
  obtain ⟨next,hnext,hwrites,hreached⟩ := h.flush
  unfold TraceOutput.close
  rw [if_neg (by simp [h.isOpen]),hnext]
  dsimp only
  rw [hreached,hwrites.contents,List.append_nil]

/-- A new output is sound and empty, with and without a buffer. -/
theorem sound_newTraceOutput (closer command : Option (Option OutputError)) (ownFlush : Bool) :
    (newTraceOutput closer command ownFlush).Sound ∧
      (newTraceOutput closer command ownFlush).writer.contents=[] := ⟨⟨rfl,rfl,rfl⟩,rfl⟩

theorem Sound.enableBuffer (h : o.Sound) (size : ℤ) :
    (o.enableBuffer size).1.Sound ∧
      (o.enableBuffer size).1.writer.contents=o.writer.contents := by
  unfold TraceOutput.enableBuffer
  rw [if_neg (by simp [h.isOpen])]
  split_ifs
  · exact ⟨h,rfl⟩
  · exact ⟨h,rfl⟩
  · cases hwriter : o.writer with
    | underlying writes =>
      refine ⟨⟨h.isOpen,h.written,h.flushed⟩,?_⟩
      simp [Writer.contents,BufferedWriter.contents]
    | buffered writer => exact ⟨h,by rw [hwriter]⟩

end TraceOutput

end OutputContents

section Batches

namespace JSONEventWriter

/-- What a writer holds: the lines so far, and the bytes of the syscall lines among them. -/
structure Holds (w : JSONEventWriter) (lines : Bytes) (syscallBytes : ℕ) : Prop where
  /-- The output has not failed. -/
  sound : w.out.Sound
  /-- The encoder has not failed. -/
  encoder : w.encoderErr=none
  /-- The output can be flushed. -/
  flushes : w.flusher=true
  /-- The output takes batches. -/
  batches : w.batchWriter=true
  /-- The batch stands behind what was written. -/
  bytes : w.out.writer.contents ++ w.syscallBuffer=lines
  /-- The batch is not counted yet. -/
  counted : w.syscallBytesWritten+UInt64.ofNat w.syscallBuffer.length=UInt64.ofNat syscallBytes

variable {w : JSONEventWriter} {lines : Bytes} {syscallBytes : ℕ}

/-- In front of a write only the clock is read. -/
theorem beginSyscallWrite_eq (w : JSONEventWriter) :
    ∃ readings, w.beginSyscallWrite.1={w with readings := readings} := by
  unfold JSONEventWriter.beginSyscallWrite
  split
  · exact ⟨w.readings,rfl⟩
  · exact ⟨w.readings+1,rfl⟩

/-- Behind a write only the clock and the counters of times change. -/
theorem finishSyscallWrite_eq (w : JSONEventWriter) (start : Option UInt64) :
    ∃ samples time readings, w.finishSyscallWrite start={w with
      syscallWriteSamples := samples
      syscallWriteTimeNS := time
      readings := readings} := by
  unfold JSONEventWriter.finishSyscallWrite
  split
  · dsimp only
    split_ifs
    · exact ⟨_,_,_,rfl⟩
    · exact ⟨_,_,_,rfl⟩
  · exact ⟨_,_,_,rfl⟩

/-- A write without a failure counts its bytes. -/
theorem recordSyscallWrite_eq (w : JSONEventWriter) (n : ℕ) :
    w.recordSyscallWrite n none={w with
      syscallWriteCalls := w.syscallWriteCalls+1
      syscallBytesWritten := w.syscallBytesWritten+UInt64.ofNat n} := by
  unfold JSONEventWriter.recordSyscallWrite
  by_cases hn : 0 < n
  · simp [hn]
  · obtain rfl : n=0 := by omega
    simp

/-- Writing the batch out changes where the lines are, not what they are. -/
theorem Holds.flushSyscallBuffer (h : Holds w lines syscallBytes) :
    Holds w.flushSyscallBuffer lines syscallBytes ∧ w.flushSyscallBuffer.syscallBuffer=[] := by
  unfold JSONEventWriter.flushSyscallBuffer
  by_cases hempty : w.syscallBuffer.isEmpty=true
  · rw [if_pos hempty]
    exact ⟨h,List.isEmpty_iff.mp hempty⟩
  · rw [if_neg hempty]
    dsimp only
    obtain ⟨readings,hbegin⟩ := beginSyscallWrite_eq w
    obtain ⟨next,hnext,hwrites⟩ := h.sound.writeBatch w.syscallBuffer
    rw [hbegin]
    dsimp only
    rw [if_pos h.batches,hnext]
    dsimp only
    rw [recordSyscallWrite_eq]
    obtain ⟨samples,time,readings,hfinish⟩ := finishSyscallWrite_eq {w with
      out := next
      readings := readings
      syscallWriteCalls := w.syscallWriteCalls+1
      syscallBytesWritten := w.syscallBytesWritten+UInt64.ofNat w.syscallBuffer.length}
      w.beginSyscallWrite.2
    rw [hfinish]
    refine ⟨⟨hwrites.sound,h.encoder,h.flushes,h.batches,?_,?_⟩,rfl⟩
    · dsimp only
      rw [hwrites.contents,List.append_nil,h.bytes]
    · dsimp only
      rw [←h.counted]
      simp

/-- A syscall line goes into the batch. -/
theorem Holds.appendLine (h : Holds w lines syscallBytes) (line : Bytes) :
    Holds ({w with syscallBuffer := w.syscallBuffer ++ line}).flushSyscallBufferIfFull
      (lines ++ line) (syscallBytes+line.length) := by
  have hbatch : Holds {w with syscallBuffer := w.syscallBuffer ++ line} (lines ++ line)
      (syscallBytes+line.length) := by
    refine ⟨h.sound,h.encoder,h.flushes,h.batches,?_,?_⟩
    · dsimp only
      rw [←List.append_assoc,h.bytes]
    · dsimp only
      rw [List.length_append,UInt64.ofNat_add,UInt64.ofNat_add,←h.counted,UInt64.add_assoc]
  unfold flushSyscallBufferIfFull
  split_ifs
  · exact hbatch
  · exact hbatch.flushSyscallBuffer.1

theorem Holds.writeRaw {V : Type} (h : Holds w lines syscallBytes) (texts : Texts V)
    (ev : EventContext V) :
    Holds (w.writeRaw texts ev) (lines ++ appendJSONRawSyscallEvent texts [] ev)
      (syscallBytes+(appendJSONRawSyscallEvent texts [] ev).length) := by
  have hline := h.appendLine (appendJSONRawSyscallEvent texts [] ev)
  have happend : w.syscallBuffer ++ appendJSONRawSyscallEvent texts [] ev=
      appendJSONRawSyscallEvent texts w.syscallBuffer ev := by
    rw [appendJSONRawSyscallEvent_eq,appendJSONRawSyscallEvent_eq,←appendJSONSyscallEvent_appends]
  rw [happend] at hline
  unfold JSONEventWriter.writeRaw
  rw [if_neg (by simp [h.batches])]
  exact hline

theorem Holds.writeDecoded {V : Type} (h : Holds w lines syscallBytes) (texts : Texts V)
    (ev : EventContext V) (res : Result) :
    Holds (w.writeDecoded texts ev res) (lines ++ appendJSONDecodedSyscallEvent texts [] ev res)
      (syscallBytes+(appendJSONDecodedSyscallEvent texts [] ev res).length) := by
  have hline := h.appendLine (appendJSONDecodedSyscallEvent texts [] ev res)
  have happend : w.syscallBuffer ++ appendJSONDecodedSyscallEvent texts [] ev res=
      appendJSONDecodedSyscallEvent texts w.syscallBuffer ev res := by
    rw [appendJSONDecodedSyscallEvent_eq,appendJSONDecodedSyscallEvent_eq,
      ←appendJSONSyscallEvent_appends]
  rw [happend] at hline
  unfold JSONEventWriter.writeDecoded
  rw [if_neg (by simp [h.batches])]
  exact hline

/-- A record goes behind the batch. -/
theorem Holds.encode (h : Holds w lines syscallBytes) (marshal : JsonRecord → Option Bytes)
    (record : JsonRecord) :
    Holds (w.encode marshal record) (lines ++ (marshal record).getD []) syscallBytes := by
  obtain ⟨hflushed,hempty⟩ := h.flushSyscallBuffer
  unfold JSONEventWriter.encode encoderEncode
  rw [if_pos h.batches,hflushed.encoder]
  cases marshal record with
  | none =>
    rw [Option.getD_none,List.append_nil]
    exact hflushed
  | some line =>
    obtain ⟨next,hnext,hwrites⟩ := hflushed.sound.write line
    dsimp only
    rw [hnext]
    refine ⟨hwrites.sound,rfl,hflushed.flushes,hflushed.batches,?_,hflushed.counted⟩
    dsimp only
    have hbytes := hflushed.bytes
    rw [hempty,List.append_nil] at hbytes ⊢
    rw [hwrites.contents,hbytes]
    rfl

/-- A flush lets all lines reach the underlying writer. -/
theorem Holds.flush (h : Holds w lines syscallBytes) :
    Holds w.flush.1 lines syscallBytes ∧ w.flush.1.out.writer.reached=lines ∧
      w.flush.1.syscallBuffer=[] ∧ w.flush.2=none := by
  obtain ⟨hflushed,hempty⟩ := h.flushSyscallBuffer
  obtain ⟨next,hnext,hwrites,hreached⟩ := hflushed.sound.flush
  have hbytes := hflushed.bytes
  rw [hempty,List.append_nil] at hbytes
  unfold JSONEventWriter.flush
  rw [if_pos h.batches]
  dsimp only
  rw [if_neg (by simp [hflushed.flushes]),hnext]
  dsimp only
  have hcontents : next.writer.contents=lines := by
    rw [hwrites.contents,List.append_nil,hbytes]
  refine ⟨⟨hwrites.sound,hflushed.encoder,hflushed.flushes,hflushed.batches,?_,hflushed.counted⟩,
    hreached.trans hcontents,hempty,rfl⟩
  dsimp only
  rw [hempty,List.append_nil,hcontents]

end JSONEventWriter

end Batches

section Runs

variable {V : Type}

/-- Calls of the writer. -/
inductive Call (V : Type) where
  | writeRaw (ev : EventContext V)
  | writeDecoded (ev : EventContext V) (res : Result)
  | writeLifecycle (view : LifecycleEventView) (task : Option TaskState)
  | writeReadyAt (targetPID : Int64) (attachPIDs : List Int64) (startTimeNS timeNS : UInt64)
  | writePhase (phase : String) (timeNS : UInt64)
  | writePhaseAt (phase : String) (startTimeNS timeNS : UInt64)
  | reportIntegrity (snapshot : TraceIntegritySnapshot)
  | flush

variable (texts : Texts V) (marshal : JsonRecord → Option Bytes)

namespace Call

/-- Syscall line of a call. -/
def syscallLine : Call V → Bytes
  | .writeRaw ev => appendJSONRawSyscallEvent texts [] ev
  | .writeDecoded ev res => appendJSONDecodedSyscallEvent texts [] ev res
  | _ => []

/-- Record of a call for the standard encoder. -/
def record : Call V → Option JsonRecord
  | .writeLifecycle view task => some (.lifecycle (newJSONLifecycleEvent view task))
  | .writeReadyAt targetPID attachPIDs startTimeNS timeNS =>
    some (.ready (newJSONReadyEventAt targetPID attachPIDs startTimeNS timeNS))
  | .writePhase phase timeNS => some (.phase (newJSONPhaseEvent phase timeNS))
  | .writePhaseAt phase startTimeNS timeNS =>
    some (.phase (newJSONPhaseEventAt phase startTimeNS timeNS))
  | .reportIntegrity snapshot => some (.integrity "integrity" snapshot)
  | _ => none

/-- Line that a call encodes. -/
def line (call : Call V) : Bytes :=
  call.syscallLine texts ++ (call.record.bind marshal).getD []

/-- Whether a call is a flush. -/
def isFlush : Call V → Bool
  | .flush => true
  | _ => false

end Call

/-- Perform a call. -/
def perform (w : JSONEventWriter) : Call V → JSONEventWriter
  | .writeRaw ev => w.writeRaw texts ev
  | .writeDecoded ev res => w.writeDecoded texts ev res
  | .writeLifecycle view task => w.writeLifecycle marshal view task
  | .writeReadyAt targetPID attachPIDs startTimeNS timeNS =>
    w.writeReadyAt marshal targetPID attachPIDs startTimeNS timeNS
  | .writePhase phase timeNS => w.writePhase marshal phase timeNS
  | .writePhaseAt phase startTimeNS timeNS => w.writePhaseAt marshal phase startTimeNS timeNS
  | .reportIntegrity snapshot => w.reportIntegrity marshal snapshot
  | .flush => w.flush.1

/-- Perform calls in their order. -/
def run (w : JSONEventWriter) (calls : List (Call V)) : JSONEventWriter :=
  calls.foldl (perform texts marshal) w

/-- Bytes of the syscall lines of some calls. -/
def syscallBytes (calls : List (Call V)) : ℕ :=
  (calls.map fun call => (call.syscallLine texts).length).sum

open JSONEventWriter in
/-- A call puts its line behind the others. -/
theorem holds_perform {w : JSONEventWriter} {lines : Bytes} {total : ℕ}
    (h : Holds w lines total) (call : Call V) :
    Holds (perform texts marshal w call) (lines ++ call.line texts marshal)
      (total+(call.syscallLine texts).length) := by
  have hencode : ∀ record,
      Holds (w.encode marshal record) (lines ++ (marshal record).getD []) total :=
    h.encode marshal
  cases call with
  | writeRaw ev =>
    change Holds (w.writeRaw texts ev) (lines ++ (appendJSONRawSyscallEvent texts [] ev ++ [])) _
    rw [List.append_nil]
    exact h.writeRaw texts ev
  | writeDecoded ev res =>
    change Holds (w.writeDecoded texts ev res)
      (lines ++ (appendJSONDecodedSyscallEvent texts [] ev res ++ [])) _
    rw [List.append_nil]
    exact h.writeDecoded texts ev res
  | writeLifecycle view task => exact hencode _
  | writeReadyAt targetPID attachPIDs startTimeNS timeNS => exact hencode _
  | writePhase phase timeNS => exact hencode _
  | writePhaseAt phase startTimeNS timeNS => exact hencode _
  | reportIntegrity snapshot => exact hencode _
  | flush =>
    have hflush := h.flush.1
    simpa [perform,Call.line,Call.syscallLine,Call.record] using hflush

open JSONEventWriter in
/-- Calls put their lines behind the others, in their order. -/
theorem holds_run {w : JSONEventWriter} {lines : Bytes} {total : ℕ} (h : Holds w lines total)
    (calls : List (Call V)) :
    Holds (run texts marshal w calls) (lines ++ calls.flatMap (Call.line texts marshal))
      (total+syscallBytes texts calls) := by
  induction calls generalizing w lines total with
  | nil => simpa [run,syscallBytes] using h
  | cons call rest ih =>
    have hrest := ih (holds_perform texts marshal h call)
    rw [List.flatMap_cons,←List.append_assoc]
    unfold syscallBytes at hrest ⊢
    rw [List.map_cons,List.sum_cons,←Nat.add_assoc]
    exact hrest

/-- Lines of calls do not depend on the flushes among them. -/
theorem flatMap_line_filter (calls : List (Call V)) :
    (calls.filter fun call => !call.isFlush).flatMap (Call.line texts marshal)=
      calls.flatMap (Call.line texts marshal) := by
  induction calls with
  | nil => rfl
  | cons call rest ih =>
    rw [List.flatMap_cons,←ih]
    cases call <;> rfl

/-- A new trace output, with a buffer in front of the underlying writer or without one. -/
def openOutput (closer command : Option (Option OutputError)) (ownFlush : Bool) :
    Option ℤ → TraceOutput
  | none => newTraceOutput closer command ownFlush
  | some size => ((newTraceOutput closer command ownFlush).enableBuffer size).1

theorem sound_openOutput (closer command : Option (Option OutputError)) (ownFlush : Bool)
    (buffer : Option ℤ) :
    (openOutput closer command ownFlush buffer).Sound ∧
      (openOutput closer command ownFlush buffer).writer.contents=[] := by
  obtain ⟨hsound,hcontents⟩ := TraceOutput.sound_newTraceOutput closer command ownFlush
  cases buffer with
  | none => exact ⟨hsound,hcontents⟩
  | some size =>
    obtain ⟨hbuffered,hsame⟩ := hsound.enableBuffer size
    exact ⟨hbuffered,hsame.trans hcontents⟩

/-- Whatever the calls are, after a last flush the underlying writer has the lines of the
calls in their order, also after the close and for every other placement of the flushes, and the
counter of syscall bytes is the length of the syscall lines. -/
theorem batched_output_fifo (closer command : Option (Option OutputError)) (ownFlush : Bool)
    (buffer : Option ℤ) (clock : Option (ℕ → UInt64)) (calls : List (Call V)) :
    let start := newJSONEventWriter (openOutput closer command ownFlush buffer) clock
    let last := run texts marshal start (calls ++ [.flush])
    last.out.writer.reached=calls.flatMap (Call.line texts marshal) ∧
    last.out.close.1.writer.reached=calls.flatMap (Call.line texts marshal) ∧
    (∀ others : List (Call V),
      (others.filter fun call => !call.isFlush)=(calls.filter fun call => !call.isFlush) →
      (run texts marshal start (others ++ [.flush])).out.writer.reached=
        last.out.writer.reached) ∧
    last.syscallBytesWritten=UInt64.ofNat (syscallBytes texts calls) ∧
    (syscallBytes texts calls < 2^64 →
      last.syscallBytesWritten.toNat=syscallBytes texts calls) := by
  intro start last
  obtain ⟨hsound,hcontents⟩ := sound_openOutput closer command ownFlush buffer
  have hstart : JSONEventWriter.Holds start [] 0 :=
    ⟨hsound,rfl,rfl,rfl,by rw [←hcontents]; exact List.append_nil _,rfl⟩
  have hflushed : ∀ calls : List (Call V),
      JSONEventWriter.Holds (run texts marshal start (calls ++ [.flush]))
        (calls.flatMap (Call.line texts marshal)) (syscallBytes texts calls) ∧
      (run texts marshal start (calls ++ [.flush])).out.writer.reached=
        calls.flatMap (Call.line texts marshal) ∧
      (run texts marshal start (calls ++ [.flush])).syscallBuffer=[] := by
    intro calls
    have hrun := holds_run texts marshal hstart calls
    rw [List.nil_append,Nat.zero_add] at hrun
    obtain ⟨hholds,hreached,hempty,-⟩ := hrun.flush
    have hsplit : run texts marshal start (calls ++ [.flush])=
        (run texts marshal start calls).flush.1 := by
      unfold run
      rw [List.foldl_append]
      rfl
    rw [hsplit]
    exact ⟨hholds,hreached,hempty⟩
  obtain ⟨hholds,hreached,hempty⟩ := hflushed calls
  have hbytes : last.out.writer.contents=calls.flatMap (Call.line texts marshal) := by
    have h := hholds.bytes
    rwa [hempty,List.append_nil] at h
  have hcount : last.syscallBytesWritten=UInt64.ofNat (syscallBytes texts calls) := by
    have h := hholds.counted
    rw [hempty] at h
    simpa using h
  refine ⟨hreached,?_,?_,hcount,?_⟩
  · rw [hholds.sound.close,hbytes]
  · intro others hothers
    rw [(hflushed others).2.1,hreached,←flatMap_line_filter,hothers,flatMap_line_filter]
  · intro hsmall
    rw [hcount,UInt64.toNat_ofNat_of_lt' hsmall]

/-- Line of a phase as the standard encoder writes it. -/
def phaseLine (event : JsonPhaseEvent) : Bytes :=
  ascii "\x7b\"type\":" ++ appendJSONString [] (ascii event.type) ++
    ascii ",\"phase\":" ++ appendJSONString [] (ascii event.phase) ++
    (if event.startTimeNS=0 then [] else
      ascii ",\"start_time_ns\":" ++ decimal event.startTimeNS.toNat) ++
    (if event.durationNS=0 then [] else
      ascii ",\"duration_ns\":" ++ decimal event.durationNS.toNat) ++
    ascii ",\"time_ns\":" ++ decimal event.timeNS.toNat ++ ascii "\x7d\n"

/-- Lines of the standard encoder for phases. -/
def marshalPhase : JsonRecord → Option Bytes
  | .phase event => some (phaseLine event)
  | _ => none

/-- A phase behind a flush and without one. -/
theorem batched_output_fifo_phase :
    let start := newJSONEventWriter (openOutput none none false (some 4096)) none
    let last := run untrackedTexts marshalPhase start
      ([.flush,.writePhase "ready" 7] ++ [.flush])
    last.out.writer.reached=
        ascii "\x7b\"type\":\"phase\",\"phase\":\"ready\",\"time_ns\":7\x7d\n" ∧
    (run untrackedTexts marshalPhase start
      ([.writePhase "ready" 7] ++ [.flush])).out.writer.reached=
      last.out.writer.reached ∧
    last.syscallBytesWritten.toNat=0 := by
  intro start last
  obtain ⟨hreached,-,hothers,-,hcount⟩ := batched_output_fifo untrackedTexts marshalPhase none none
    false (some 4096) none [.flush,.writePhase "ready" 7]
  have hline : ([.flush,.writePhase "ready" 7] : List (Call Unit)).flatMap
      (Call.line untrackedTexts marshalPhase)=
        ascii "\x7b\"type\":\"phase\",\"phase\":\"ready\",\"time_ns\":7\x7d\n" := by decide
  exact ⟨hreached.trans hline,hothers [.writePhase "ready" 7] rfl,hcount (by decide)⟩

end Runs

end StraceGo.JsonEventWriter

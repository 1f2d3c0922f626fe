import StraceGo.FallibleOutput
import StraceGo.GoText
import StraceGo.MapVisits
import StraceGo.Utf8Text

/-!
# Output files of the single processes

With separate output every process has a file of its own. The lines of a process
are buffered in front of its file, which is opened at its first line; a flush and
the close loop over all files in any order. Whatever fails, a file holds nothing
but lines of its own process, in their order, and a close without an error means
that every file holds all of them.
-/

namespace StraceGo.SeparateOutput

open FallibleOutput FiniteMaps MapVisits GoText Utf8Text

/-- Files as they are and the failures of the calls on them. -/
structure FileSystem where
  /-- Contents of the files before. -/
  existing : String → Bytes
  /-- Outcome of each open, by its number. -/
  openError : ℕ → Option String
  /-- Outcome of each write of a file. -/
  device : String → Device String
  /-- Outcome of the close of a file. -/
  closeError : String → Option String

/-- Contents of a file right after it was opened. -/
def FileSystem.start (fs : FileSystem) (appendMode : Bool) (path : String) : Bytes :=
  if appendMode then fs.existing path else []

/-- Size of the buffer of an output file. -/
def traceOutputBufferSize : ℕ := 64*1024

section Router

/-- The file of one process. -/
structure SeparateTracePIDFile where
  /-- Path of the file. -/
  path : String
  /-- The buffered writer; its device is the file. -/
  writer : BufferedDevice UInt8 String
  /-- How often the file was closed. -/
  closes : ℕ := 0

/-- The writer that gives every process its file. -/
structure SeparateTraceOutputWriter where
  /-- Path the file names start with. -/
  basePath : String
  /-- Whether files are opened to append. -/
  appendMode : Bool
  /-- Process whose lines come next. -/
  selected : ℤ := 0
  /-- Open files. -/
  files : GoMap ℤ SeparateTracePIDFile := ∅
  /-- Whether the files are closed. -/
  closed : Bool := false
  /-- Opens so far. -/
  opens : ℕ := 0

/-- Text of a failure with its first letter in upper case. -/
def capitalizedDiagnosticError (message : String) : String :=
  match message.toList with
  | [] => "Unknown error"
  | c::cs => String.ofList (c.toUpper::cs)

/-- Text of a failed open, with the path the user gave. -/
def traceOutputPathError (path cause : String) : String :=
  path ++ ": " ++ capitalizedDiagnosticError cause

/-- Failure of a write that took fewer bytes than it was given. -/
def checkShortWrite (n length : ℕ) (err : Option String) : Option String :=
  match err with
  | some cause => some cause
  | none => if n≠length then some "short write" else none

theorem err_of_checkShortWrite {n length : ℕ} {err : Option String}
    (h : checkShortWrite n length err=none) : err=none := by
  cases err with
  | none => rfl
  | some cause => exact absurd h (Option.some_ne_none cause)

def newSeparateTraceOutputWriter (basePath : String) (appendMode : Bool) :
    SeparateTraceOutputWriter where
  basePath := basePath
  appendMode := appendMode

/-- Path of the file of a process. -/
def pidPath (basePath : String) (pid : ℤ) : String := basePath ++ "." ++ toString pid

namespace SeparateTraceOutputWriter

variable (fs : FileSystem) (w : SeparateTraceOutputWriter)

/-- Choose the process whose lines come next. -/
def selectPID (pid : ℤ) : SeparateTraceOutputWriter×Option String :=
  if w.closed then (w,some "separate trace output is unavailable")
  else if pid ≤ 0 then (w,some ("invalid trace output pid " ++ toString pid))
  else ({w with selected := pid},none)

/-- The file of a process, opened if it is not there yet. -/
def fileForPID (pid : ℤ) : SeparateTraceOutputWriter×Except String SeparateTracePIDFile :=
  match w.files.lookup pid with
  | some output => (w,.ok output)
  | none =>
    let path := pidPath w.basePath pid
    match fs.openError w.opens with
    | some cause =>
      ({w with opens := w.opens+1},.error
        ("create separate output file " ++ path ++ ": " ++ traceOutputPathError w.basePath cause))
    | none =>
      let output : SeparateTracePIDFile :=
        {path := path
         writer := {size := traceOutputBufferSize, contents := fs.start w.appendMode path}}
      ({w with opens := w.opens+1, files := w.files.insert pid output},.ok output)

/-- Write a piece to the file of the chosen process. -/
def write (data : Bytes) : SeparateTraceOutputWriter×ℕ×Option String :=
  if w.closed then (w,0,some "separate trace output is unavailable")
  else if w.selected ≤ 0 then (w,0,some "trace output pid is not selected")
  else
    match w.fileForPID fs w.selected with
    | (w,.error err) => (w,0,some err)
    | (w,.ok output) =>
      let (writer,n) := output.writer.write (fs.device output.path) data
      ({w with files := w.files.insert w.selected {output with writer := writer}},n,
        checkShortWrite n data.length writer.failure)

/-- Flush one file. -/
def flushFile (output : SeparateTracePIDFile) : SeparateTracePIDFile×List String :=
  let writer := output.writer.flush (fs.device output.path)
  ({output with writer := writer},
    (writer.failure.map fun cause =>
      "flush separate output file " ++ output.path ++ ": " ++ cause).toList)

/-- Close one file. -/
def closeFile (output : SeparateTracePIDFile) : SeparateTracePIDFile×List String :=
  ({output with closes := output.closes+1},
    ((fs.closeError output.path).map fun cause =>
      "close separate output file " ++ output.path ++ ": " ++ cause).toList)

/-- Flush every file; all failures are returned. -/
def flush (visit : Visit ℤ SeparateTracePIDFile) : SeparateTraceOutputWriter×List String :=
  if w.closed then (w,[])
  else
    let (files,errs) := updateAll visit (flushFile fs) w.files
    ({w with files := files},errs)

/-- Flush and close every file; all failures are returned. -/
def close (flushVisit closeVisit : Visit ℤ SeparateTracePIDFile) :
    SeparateTraceOutputWriter×List String :=
  if w.closed then (w,[])
  else
    let (w,flushErrs) := w.flush fs flushVisit
    let (files,closeErrs) := updateAll closeVisit (closeFile fs) w.files
    ({w with closed := true, files := files},flushErrs ++ closeErrs)

end SeparateTraceOutputWriter

end Router

section Output

/-- The trace output in front of the files. -/
structure TraceOutput where
  /-- The files. -/
  router : SeparateTraceOutputWriter
  /-- Whether the output is closed. -/
  closed : Bool := false
  /-- First failure of a write. -/
  writeErr : Option String := none
  /-- First failure of a flush. -/
  flushErr : Option String := none
  /-- Failures at the close. -/
  closeErr : List String := []

/-- The output for separate files; without a path, or with a pipe, there is none. -/
def setupSeparateOutput (outFileOpt : String) (appendMode : Bool) : Except String TraceOutput :=
  if outFileOpt="" then .error "--output-separately requires -o/--output"
  else if hasPrefix outFileOpt "|" || hasPrefix outFileOpt "!" then
    .error "piping output and --output-separately are mutually exclusive"
  else .ok {router := newSeparateTraceOutputWriter outFileOpt appendMode}

/-- Orders in which a close visits the files: at the flush of the output, at the flush of the
files and at their close. -/
structure CloseVisits where
  /-- At the flush of the output. -/
  outputFlush : Visit ℤ SeparateTracePIDFile
  /-- At the flush of the files. -/
  routerFlush : Visit ℤ SeparateTracePIDFile
  /-- At the close of the files. -/
  close : Visit ℤ SeparateTracePIDFile

namespace TraceOutput

variable (fs : FileSystem) (o : TraceOutput)

/-- Choose the process whose lines come next. -/
def selectPID (pid : ℤ) : TraceOutput×Option String :=
  if o.closed then (o,some "trace output is unavailable")
  else
    let (router,err) := o.router.selectPID pid
    ({o with router := router},err)

/-- Write a piece. -/
def write (p : Bytes) : TraceOutput×ℕ×Option String :=
  if o.closed then (o,0,some "trace output is closed")
  else
    let (router,n,err) := o.router.write fs p
    let err := checkShortWrite n p.length err
    let writeErr := o.writeErr <|> err.map fun cause => "write trace output: " ++ cause
    ({o with router := router, writeErr := writeErr},n,err)

/-- Flush all files. -/
def flush (visit : Visit ℤ SeparateTracePIDFile) : TraceOutput×Option String :=
  if o.closed then (o,some "trace output is closed")
  else
    match o.flushErr with
    | some err => (o,some err)
    | none =>
      let (router,errs) := o.router.flush fs visit
      let flushErr := if errs=[] then none
        else some ("flush trace output: " ++ "\n".intercalate errs)
      ({o with router := router, flushErr := flushErr},flushErr)

/-- Close the output; all failures are returned, again at every later close. -/
def close (visits : CloseVisits) : TraceOutput×List String :=
  if o.closed then (o,o.closeErr)
  else
    let (o,flushErr) := o.flush fs visits.outputFlush
    let (router,closeErrs) := o.router.close fs visits.routerFlush visits.close
    let closeErr := o.writeErr.toList ++ flushErr.toList ++ closeErrs
    ({o with router := router, closed := true, closeErr := closeErr},closeErr)

end TraceOutput

end Output

section Runs

/-- Calls before the close. -/
inductive Call where
  | selectPID (pid : ℤ)
  | write (data : Bytes)
  | flush (visit : Visit ℤ SeparateTracePIDFile)

/-- Make a call. -/
def TraceOutput.perform (fs : FileSystem) (o : TraceOutput) : Call → TraceOutput
  | .selectPID pid => (o.selectPID pid).1
  | .write data => (o.write fs data).1
  | .flush visit => (o.flush fs visit).1

/-- Make calls in their order. -/
def TraceOutput.run (fs : FileSystem) (o : TraceOutput) (calls : List Call) : TraceOutput :=
  calls.foldl (TraceOutput.perform fs) o

/-- Process that is chosen after a call. -/
def Call.select (selected : ℤ) : Call → ℤ
  | .selectPID pid => if pid ≤ 0 then selected else pid
  | .write _ => selected
  | .flush _ => selected

/-- Piece that a call writes, with the process chosen for it. -/
def Call.piece (selected : ℤ) : Call → List (ℤ×Bytes)
  | .selectPID _ => []
  | .write data => [(selected,data)]
  | .flush _ => []

/-- All pieces that calls write, each with the process chosen for it. -/
def routed (selected : ℤ) : List Call → List (ℤ×Bytes)
  | [] => []
  | call::calls => call.piece selected ++ routed (call.select selected) calls

/-- Pieces for one process. -/
def piecesOf (pid : ℤ) (sent : List (ℤ×Bytes)) : List Bytes :=
  (sent.filter fun piece => piece.1=pid).map (·.2)

end Runs

section Delivery

variable {fs : FileSystem} {w : SeparateTraceOutputWriter}

namespace SeparateTraceOutputWriter

/-- A file that was just opened. -/
abbrev openedFile (fs : FileSystem) (appendMode : Bool) (path : String) : SeparateTracePIDFile :=
  {path := path, writer := {size := traceOutputBufferSize, contents := fs.start appendMode path}}

/-- What changes at a write: nothing but the file of the chosen process. -/
structure Written (fs : FileSystem) (w next : SeparateTraceOutputWriter) (f : SeparateTracePIDFile)
    (data : Bytes) : Prop where
  /-- A process was chosen. -/
  positive : 0 < w.selected
  /-- Its file was open, or is new. -/
  file : w.files.lookup w.selected=some f ∨
    w.files.lookup w.selected=none ∧
      f=openedFile fs w.appendMode (pidPath w.basePath w.selected)
  /-- The piece goes to it. -/
  lookup : ∀ pid, next.files.lookup pid=
    if pid=w.selected then some {f with writer := (f.writer.write (fs.device f.path) data).1}
    else w.files.lookup pid

/-- Fields that no call but a selection and the close changes. -/
structure Same (w next : SeparateTraceOutputWriter) : Prop where
  /-- The path the file names start with. -/
  basePath : next.basePath=w.basePath
  /-- The mode of the opens. -/
  appendMode : next.appendMode=w.appendMode
  /-- The chosen process. -/
  selected : next.selected=w.selected
  /-- The files stay open. -/
  closed : next.closed=w.closed

variable (fs) in
/-- A write fails for want of a file, or changes the file of the chosen process alone. -/
theorem write_cases (hopen : w.closed=false) (data : Bytes) :
    Same w (w.write fs data).1 ∧
    ((w.write fs data).2.2≠none ∧ (w.write fs data).1.files=w.files ∧
        (w.selected ≤ 0 ∨ w.files.lookup w.selected=none) ∨
      ∃ f, Written fs w (w.write fs data).1 f data ∧
        ((w.write fs data).2.2=none →
          (f.writer.write (fs.device f.path) data).1.failure=none)) := by
  have hclosed : ¬w.closed=true := by rw [hopen]; exact Bool.false_ne_true
  unfold write
  rw [if_neg hclosed]
  by_cases hselected : w.selected ≤ 0
  · rw [if_pos hselected]
    exact ⟨⟨rfl,rfl,rfl,rfl⟩,.inl ⟨Option.some_ne_none _,rfl,.inl hselected⟩⟩
  · rw [if_neg hselected]
    have hpositive : 0 < w.selected := not_le.mp hselected
    unfold fileForPID
    cases hlookup : w.files.lookup w.selected with
    | some f =>
      exact ⟨⟨rfl,rfl,rfl,rfl⟩,.inr ⟨f,
        ⟨hpositive,.inl hlookup,fun pid => lookup_insert_ite _ _ _ _⟩,err_of_checkShortWrite⟩⟩
    | none =>
      cases hopens : fs.openError w.opens with
      | some cause =>
        exact ⟨⟨rfl,rfl,rfl,rfl⟩,.inl ⟨Option.some_ne_none _,rfl,.inr rfl⟩⟩
      | none =>
        refine ⟨⟨rfl,rfl,rfl,rfl⟩,.inr ⟨_,⟨hpositive,.inr ⟨hlookup,rfl⟩,fun pid => ?_⟩,
          err_of_checkShortWrite⟩⟩
        dsimp only
        rw [lookup_insert_ite,lookup_insert_ite]
        split_ifs with hpid
        · rfl
        · rfl

theorem close_eq (hopen : w.closed=false) (flushVisit closeVisit : Visit ℤ SeparateTracePIDFile) :
    w.close fs flushVisit closeVisit=
      ({w with
        closed := true
        files := (updateAll closeVisit (closeFile fs)
          (updateAll flushVisit (flushFile fs) w.files).1).1},
        (updateAll flushVisit (flushFile fs) w.files).2 ++
          (updateAll closeVisit (closeFile fs)
            (updateAll flushVisit (flushFile fs) w.files).1).2) := by
  have hclosed : ¬w.closed=true := by rw [hopen]; exact Bool.false_ne_true
  unfold close flush
  rw [if_neg hclosed,if_neg hclosed]

end SeparateTraceOutputWriter

theorem piecesOf_append (pid : ℤ) (sent more : List (ℤ×Bytes)) :
    piecesOf pid (sent ++ more)=piecesOf pid sent ++ piecesOf pid more := by
  simp [piecesOf]

theorem piecesOf_self (pid : ℤ) (data : Bytes) : piecesOf pid [(pid,data)]=[data] := by
  simp [piecesOf]

theorem piecesOf_other {pid other : ℤ} (h : pid≠other) (data : Bytes) :
    piecesOf pid [(other,data)]=[] := by
  have hother : ¬other=pid := fun heq => h heq.symm
  simp [piecesOf,hother]

theorem flush_selected (o : TraceOutput) (visit : Visit ℤ SeparateTracePIDFile) :
    (o.flush fs visit).1.router.selected=o.router.selected := by
  unfold TraceOutput.flush SeparateTraceOutputWriter.flush
  split_ifs
  · rfl
  · cases o.flushErr with
    | none => rfl
    | some err => rfl
  · cases o.flushErr with
    | none => rfl
    | some err => rfl

/-- Only a selection changes the chosen process of an open output. -/
theorem perform_selected {o : TraceOutput} (houtput : o.closed=false)
    (hrouter : o.router.closed=false) (call : Call) :
    (o.perform fs call).router.selected=call.select o.router.selected := by
  have hopen : ¬o.closed=true := by rw [houtput]; exact Bool.false_ne_true
  have hfiles : ¬o.router.closed=true := by rw [hrouter]; exact Bool.false_ne_true
  cases call with
  | selectPID chosen =>
    change (o.selectPID chosen).1.router.selected=_
    unfold TraceOutput.selectPID SeparateTraceOutputWriter.selectPID
    rw [if_neg hopen,if_neg hfiles]
    by_cases hchosen : chosen ≤ 0
    · rw [if_pos hchosen]
      exact (if_pos hchosen).symm
    · rw [if_neg hchosen]
      exact (if_neg hchosen).symm
  | write data =>
    change (o.write fs data).1.router.selected=_
    unfold TraceOutput.write
    rw [if_neg hopen]
    exact (SeparateTraceOutputWriter.write_cases fs hrouter data).1.selected
  | flush visit => exact flush_selected o visit

/-- What a file holds of the pieces that were sent. -/
structure FileHolds (fs : FileSystem) (basePath : String) (appendMode : Bool)
    (writeErr flushErr : Option String) (sent : List (ℤ×Bytes)) (pid : ℤ)
    (f : SeparateTracePIDFile) : Prop where
  /-- The file belongs to a process. -/
  positive : 0 < pid
  /-- It has the path of the process. -/
  path : f.path=pidPath basePath pid
  /-- It is open. -/
  closes : f.closes=0
  /-- The pieces since its open were delivered, and none was lost before unless a write failed. -/
  delivers : ∃ lost kept, piecesOf pid sent=lost ++ kept ∧ kept≠[] ∧
    (writeErr=none → lost=[]) ∧
    f.writer.Delivers (fs.start appendMode f.path ++ kept.flatten)
  /-- Nothing failed behind the back of the output. -/
  clean : writeErr=none → flushErr=none → f.writer.failure=none

/-- What the output holds of the pieces that were sent. -/
structure Holds (fs : FileSystem) (basePath : String) (appendMode : Bool) (o : TraceOutput)
    (sent : List (ℤ×Bytes)) : Prop where
  /-- The output is open. -/
  outputOpen : o.closed=false
  /-- The files are open. -/
  routerOpen : o.router.closed=false
  /-- The path the file names start with. -/
  base : o.router.basePath=basePath
  /-- The mode of the opens. -/
  mode : o.router.appendMode=appendMode
  /-- The files hold their pieces. -/
  files : ∀ pid f, o.router.files.lookup pid=some f →
    FileHolds fs basePath appendMode o.writeErr o.flushErr sent pid f
  /-- A process without a file sent nothing unless a write failed. -/
  missing : ∀ pid, o.router.files.lookup pid=none → o.writeErr=none → piecesOf pid sent=[]

variable {basePath : String} {appendMode : Bool} {o : TraceOutput} {sent : List (ℤ×Bytes)}
  {writeErr flushErr : Option String} {pid : ℤ} {f : SeparateTracePIDFile}

/-- A piece for another process leaves a file as it is. -/
theorem FileHolds.other (h : FileHolds fs basePath appendMode writeErr flushErr sent pid f)
    {selected : ℤ} (hpid : pid≠selected) (data : Bytes) {nextErr : Option String}
    (herr : nextErr=none → writeErr=none) :
    FileHolds fs basePath appendMode nextErr flushErr (sent ++ [(selected,data)]) pid f where
  positive := h.positive
  path := h.path
  closes := h.closes
  delivers := by
    obtain ⟨lost,kept,hsplit,hkept,hlost,hdelivers⟩ := h.delivers
    refine ⟨lost,kept,?_,hkept,fun hnone => hlost (herr hnone),hdelivers⟩
    rw [piecesOf_append,piecesOf_other hpid,List.append_nil,hsplit]
  clean hnone hflush := h.clean (herr hnone) hflush

/-- A piece for its process goes behind what a file holds. -/
theorem FileHolds.own (h : FileHolds fs basePath appendMode writeErr flushErr sent pid f)
    (data : Bytes) {nextErr : Option String} (herr : nextErr=none → writeErr=none)
    (hclean : nextErr=none → (f.writer.write (fs.device f.path) data).1.failure=none) :
    FileHolds fs basePath appendMode nextErr flushErr (sent ++ [(pid,data)]) pid
      {f with writer := (f.writer.write (fs.device f.path) data).1} where
  positive := h.positive
  path := h.path
  closes := h.closes
  delivers := by
    obtain ⟨lost,kept,hsplit,hkept,hlost,hdelivers⟩ := h.delivers
    refine ⟨lost,kept ++ [data],?_,fun hnil => hkept (List.append_eq_nil_iff.mp hnil).1,
      fun hnone => hlost (herr hnone),?_⟩
    · rw [piecesOf_append,piecesOf_self,hsplit,List.append_assoc]
    · have hnext := hdelivers.write (fs.device f.path) data
      rw [List.append_assoc] at hnext
      rw [List.flatten_append,List.flatten_singleton]
      exact hnext
  clean hnone _ := hclean hnone

theorem FileHolds.flushFile (h : FileHolds fs basePath appendMode writeErr flushErr sent pid f)
    {nextErr : Option String}
    (hclean : nextErr=none → (f.writer.flush (fs.device f.path)).failure=none) :
    FileHolds fs basePath appendMode writeErr nextErr sent pid
      (SeparateTraceOutputWriter.flushFile fs f).1 where
  positive := h.positive
  path := h.path
  closes := h.closes
  delivers := by
    obtain ⟨lost,kept,hsplit,hkept,hlost,hdelivers⟩ := h.delivers
    exact ⟨lost,kept,hsplit,hkept,hlost,hdelivers.flush (fs.device f.path)⟩
  clean _ hnone := hclean hnone

theorem Holds.closed_ne (h : Holds fs basePath appendMode o sent) : ¬o.closed=true := by
  rw [h.outputOpen]
  exact Bool.false_ne_true

theorem Holds.router_closed_ne (h : Holds fs basePath appendMode o sent) :
    ¬o.router.closed=true := by
  rw [h.routerOpen]
  exact Bool.false_ne_true

theorem Holds.selectPID (h : Holds fs basePath appendMode o sent) (chosen : ℤ) :
    Holds fs basePath appendMode (o.selectPID chosen).1 sent := by
  unfold TraceOutput.selectPID SeparateTraceOutputWriter.selectPID
  rw [if_neg h.closed_ne,if_neg h.router_closed_ne]
  split_ifs with hchosen
  · exact ⟨h.outputOpen,h.routerOpen,h.base,h.mode,h.files,h.missing⟩
  · exact ⟨h.outputOpen,h.routerOpen,h.base,h.mode,h.files,h.missing⟩

/-- A write sends its piece to the file of the chosen process, or reports a failure. -/
theorem Holds.write (h : Holds fs basePath appendMode o sent) (data : Bytes) :
    Holds fs basePath appendMode (o.write fs data).1 (sent ++ [(o.router.selected,data)]) := by
  obtain ⟨hsame,hcases⟩ := SeparateTraceOutputWriter.write_cases fs h.routerOpen data
  unfold TraceOutput.write
  rw [if_neg h.closed_ne]
  dsimp only
  generalize hresult : o.router.write fs data=result at hsame hcases ⊢
  obtain ⟨router,n,err⟩ := result
  dsimp only at hsame hcases ⊢
  have herr : ∀ {x : Option String}, (o.writeErr <|> x)=none → o.writeErr=none ∧ x=none := by
    intro x hnone
    cases hw : o.writeErr with
    | none =>
      rw [hw] at hnone
      exact ⟨rfl,hnone⟩
    | some cause =>
      rw [hw] at hnone
      exact absurd hnone (Option.some_ne_none cause)
  have hfirst : (o.writeErr <|> (checkShortWrite n data.length err).map fun cause =>
      "write trace output: " ++ cause)=none → o.writeErr=none ∧ err=none := by
    intro hnone
    obtain ⟨hwrite,hmap⟩ := herr hnone
    exact ⟨hwrite,err_of_checkShortWrite (Option.map_eq_none_iff.mp hmap)⟩
  refine ⟨h.outputOpen,hsame.closed.trans h.routerOpen,hsame.basePath.trans h.base,
    hsame.appendMode.trans h.mode,?_,?_⟩
  · intro pid f hlookup
    rcases hcases with ⟨hfailed,hfiles,hnofile⟩ | ⟨g,hwritten,hclean⟩
    · dsimp only at hlookup
      rw [hfiles] at hlookup
      have hf := h.files pid f hlookup
      have hpid : pid≠o.router.selected := by
        rintro rfl
        rcases hnofile with hle | hnone
        · have hpositive := hf.positive
          omega
        · exact absurd (hlookup.symm.trans hnone) (Option.some_ne_none f)
      exact hf.other hpid data fun hnone => (hfirst hnone).1
    · dsimp only at hlookup
      rw [hwritten.lookup] at hlookup
      split_ifs at hlookup with hpid
      · subst hpid
        cases hlookup
        have hnone := fun hnone => hclean (hfirst hnone).2
        rcases hwritten.file with hold | ⟨hnew,hfresh⟩
        · exact (h.files _ g hold).own data (fun hnone => (hfirst hnone).1) hnone
        · have hstart : g.path=pidPath basePath o.router.selected := by
            rw [hfresh,h.base]
          refine ⟨hwritten.positive,hstart,by rw [hfresh],
            ⟨piecesOf o.router.selected sent,[data],?_,List.cons_ne_nil _ _,
              fun hnone => h.missing _ hnew (hfirst hnone).1,?_⟩,fun hwrite _ => hnone hwrite⟩
          · rw [piecesOf_append,piecesOf_self]
          · have hdelivers : g.writer.Delivers (fs.start appendMode g.path) := by
              rw [hstart]
              have hheld : g.writer.held=
                  fs.start appendMode (pidPath basePath o.router.selected) := by
                rw [hfresh,h.base,h.mode]
                exact List.append_nil _
              exact ⟨by rw [hheld],fun _ => hheld⟩
            rw [List.flatten_singleton]
            exact hdelivers.write (fs.device g.path) data
      · exact (h.files pid f hlookup).other hpid data fun hnone => (hfirst hnone).1
  · intro pid hlookup hnone
    dsimp only at hlookup hnone
    rcases hcases with ⟨hfailed,-,-⟩ | ⟨g,hwritten,-⟩
    · exact absurd (hfirst hnone).2 hfailed
    · rw [hwritten.lookup] at hlookup
      split_ifs at hlookup with hpid
      rw [piecesOf_append,piecesOf_other hpid,List.append_nil]
      exact h.missing pid hlookup (hfirst hnone).1

theorem flushFile_reports_nil :
    (SeparateTraceOutputWriter.flushFile fs f).2=[] ↔
      (f.writer.flush (fs.device f.path)).failure=none := by
  change ((f.writer.flush (fs.device f.path)).failure.map fun cause =>
    "flush separate output file " ++ f.path ++ ": " ++ cause).toList=[] ↔ _
  rw [Option.toList_eq_nil_iff,Option.map_eq_none_iff]

/-- A flush leaves what the files hold of their streams, and reports every failed file. -/
theorem Holds.flush (h : Holds fs basePath appendMode o sent)
    (visit : Visit ℤ SeparateTracePIDFile) :
    Holds fs basePath appendMode (o.flush fs visit).1 sent ∧
      (o.flush fs visit).1.writeErr=o.writeErr := by
  unfold TraceOutput.flush SeparateTraceOutputWriter.flush
  rw [if_neg h.closed_ne,if_neg h.router_closed_ne]
  cases hflush : o.flushErr with
  | some err => exact ⟨h,rfl⟩
  | none =>
    dsimp only
    refine ⟨⟨h.outputOpen,h.routerOpen,h.base,h.mode,?_,?_⟩,rfl⟩
    · intro pid f hlookup
      dsimp only at hlookup
      rw [lookup_updateAll] at hlookup
      obtain ⟨g,hg,rfl⟩ := Option.map_eq_some_iff.mp hlookup
      apply (h.files pid g hg).flushFile
      intro hnone
      dsimp only at hnone
      split_ifs at hnone with hreports
      exact flushFile_reports_nil.mp ((reports_updateAll_eq_nil _ _ _).mp hreports pid g hg)
    · intro pid hlookup hnone
      dsimp only at hlookup hnone
      rw [lookup_updateAll,Option.map_eq_none_iff] at hlookup
      exact h.missing pid hlookup hnone

/-- A call sends its piece. -/
theorem Holds.perform (h : Holds fs basePath appendMode o sent) (call : Call) :
    Holds fs basePath appendMode (o.perform fs call) (sent ++ call.piece o.router.selected) := by
  cases call with
  | selectPID chosen =>
    rw [Call.piece,List.append_nil]
    exact h.selectPID chosen
  | write data => exact h.write data
  | flush visit =>
    rw [Call.piece,List.append_nil]
    exact (h.flush visit).1

/-- Calls send their pieces in their order. -/
theorem Holds.run (h : Holds fs basePath appendMode o sent) (calls : List Call) :
    Holds fs basePath appendMode (o.run fs calls) (sent ++ routed o.router.selected calls) := by
  induction calls generalizing o sent with
  | nil =>
    rw [routed,List.append_nil]
    exact h
  | cons call calls ih =>
    have hrest := ih (h.perform call)
    rw [perform_selected h.outputOpen h.routerOpen,List.append_assoc] at hrest
    exact hrest

variable (fs) in
/-- A new output holds nothing. -/
theorem holds_setup {outFileOpt : String}
    (hsetup : setupSeparateOutput outFileOpt appendMode=.ok o) :
    Holds fs outFileOpt appendMode o [] ∧ o.router.selected=0 := by
  unfold setupSeparateOutput at hsetup
  split_ifs at hsetup
  cases hsetup
  refine ⟨⟨rfl,rfl,rfl,rfl,fun pid f hlookup => ?_,fun _ _ _ => rfl⟩,rfl⟩
  have hnone : (∅ : GoMap ℤ SeparateTracePIDFile).lookup pid=none := Finmap.lookup_empty pid
  exact absurd (hlookup.symm.trans hnone) (Option.some_ne_none f)

/-- The close of an open output flushes it and closes the files. -/
theorem Holds.close_eq (h : Holds fs basePath appendMode o sent) (visits : CloseVisits) :
    let flushed := o.flush fs visits.outputFlush
    let closedFiles := flushed.1.router.close fs visits.routerFlush visits.close
    let closeErr := flushed.1.writeErr.toList ++ flushed.2.toList ++ closedFiles.2
    o.close fs visits=
      ({flushed.1 with router := closedFiles.1, closed := true, closeErr := closeErr},
        closeErr) := by
  intro flushed closedFiles closeErr
  unfold TraceOutput.close
  rw [if_neg h.closed_ne]

/-- The close flushes and closes every file once. -/
theorem Holds.lookup_close (h : Holds fs basePath appendMode o sent) (visits : CloseVisits)
    (pid : ℤ) :
    (o.close fs visits).1.router.files.lookup pid=
      (((o.flush fs visits.outputFlush).1.router.files.lookup pid).map fun f =>
        (SeparateTraceOutputWriter.flushFile fs f).1).map fun f =>
        (SeparateTraceOutputWriter.closeFile fs f).1 := by
  obtain ⟨hflushed,-⟩ := h.flush visits.outputFlush
  rw [h.close_eq,SeparateTraceOutputWriter.close_eq hflushed.routerOpen]
  dsimp only
  rw [lookup_updateAll,lookup_updateAll]

/-- A close without an error means that no write failed and every file took its last flush. -/
theorem Holds.close_ok (h : Holds fs basePath appendMode o sent) {visits : CloseVisits}
    (hclose : (o.close fs visits).2=[]) :
    o.writeErr=none ∧
      ∀ pid f, (o.flush fs visits.outputFlush).1.router.files.lookup pid=some f →
        (f.writer.flush (fs.device f.path)).failure=none := by
  obtain ⟨hflushed,hwriteErr⟩ := h.flush visits.outputFlush
  rw [h.close_eq,SeparateTraceOutputWriter.close_eq hflushed.routerOpen] at hclose
  dsimp only at hclose
  rw [List.append_eq_nil_iff,List.append_eq_nil_iff,List.append_eq_nil_iff] at hclose
  obtain ⟨⟨hwrite,-⟩,hflushes,-⟩ := hclose
  rw [Option.toList_eq_nil_iff,hwriteErr] at hwrite
  exact ⟨hwrite,fun pid f hlookup => flushFile_reports_nil.mp
    ((reports_updateAll_eq_nil _ _ _).mp hflushes pid f hlookup)⟩

/-- A closed output stays as it is. -/
theorem run_of_closed (hclosed : o.closed=true) (calls : List Call) : o.run fs calls=o := by
  unfold TraceOutput.run
  induction calls with
  | nil => rfl
  | cons call calls ih =>
    have hstep : o.perform fs call=o := by
      cases call with
      | selectPID chosen =>
        change (o.selectPID chosen).1=o
        unfold TraceOutput.selectPID
        rw [if_pos hclosed]
      | write data =>
        change (o.write fs data).1=o
        unfold TraceOutput.write
        rw [if_pos hclosed]
      | flush visit =>
        change (o.flush fs visit).1=o
        unfold TraceOutput.flush
        rw [if_pos hclosed]
    rw [List.foldl_cons,hstep]
    exact ih

theorem pidPath_injective (basePath : String) : Function.Injective (pidPath basePath) := by
  intro pid other h
  unfold pidPath at h
  exact toString_int_injective (String.append_right_inj _ |>.mp h)

end Delivery

section Success

/-- Files on which no call fails. -/
structure FileSystem.Reliable (fs : FileSystem) : Prop where
  /-- Every open succeeds. -/
  openError : ∀ n, fs.openError n=none
  /-- Every write takes everything. -/
  device : ∀ path n, fs.device path n=none
  /-- Every close succeeds. -/
  closeError : ∀ path, fs.closeError path=none

/-- An open output on which nothing has failed. -/
structure Clean (o : TraceOutput) : Prop where
  /-- The output is open. -/
  outputOpen : o.closed=false
  /-- The files are open. -/
  routerOpen : o.router.closed=false
  /-- No write failed. -/
  writeErr : o.writeErr=none
  /-- No flush failed. -/
  flushErr : o.flushErr=none
  /-- No file failed. -/
  files : ∀ pid f, o.router.files.lookup pid=some f → f.writer.failure=none

variable {fs : FileSystem} {o : TraceOutput}

theorem Clean.closed_ne (h : Clean o) : ¬o.closed=true := by
  rw [h.outputOpen]
  exact Bool.false_ne_true

theorem Clean.router_closed_ne (h : Clean o) : ¬o.router.closed=true := by
  rw [h.routerOpen]
  exact Bool.false_ne_true

theorem Clean.selectPID (h : Clean o) (chosen : ℤ) : Clean (o.selectPID chosen).1 := by
  unfold TraceOutput.selectPID SeparateTraceOutputWriter.selectPID
  rw [if_neg h.closed_ne,if_neg h.router_closed_ne]
  split_ifs with hchosen
  · exact ⟨h.outputOpen,h.routerOpen,h.writeErr,h.flushErr,h.files⟩
  · exact ⟨h.outputOpen,h.routerOpen,h.writeErr,h.flushErr,h.files⟩

theorem Clean.write (h : Clean o) (hfs : fs.Reliable) (hselected : 0 < o.router.selected)
    (data : Bytes) : Clean (o.write fs data).1 := by
  have hgood : ∀ f : SeparateTracePIDFile, f.writer.failure=none →
      (f.writer.write (fs.device f.path) data).1.failure=none ∧
        (f.writer.write (fs.device f.path) data).2=data.length := by
    intro f hf
    have hnone := (BufferedDevice.write_failure (hfs.device f.path) f.writer data).trans hf
    exact ⟨hnone,(BufferedDevice.write_held _ f.writer data).2.2 hnone⟩
  have hchosen : ¬o.router.selected ≤ 0 := not_le.mpr hselected
  have hadd : ∀ (files : GoMap ℤ SeparateTracePIDFile) (f : SeparateTracePIDFile),
      (∀ pid g, files.lookup pid=some g → g.writer.failure=none) → f.writer.failure=none →
      ∀ pid g, (files.insert o.router.selected f).lookup pid=some g → g.writer.failure=none := by
    intro files f hfiles hf pid g hlookup
    rw [lookup_insert_ite] at hlookup
    split_ifs at hlookup with hpid
    · cases hlookup
      exact hf
    · exact hfiles pid g hlookup
  unfold TraceOutput.write SeparateTraceOutputWriter.write
  rw [if_neg h.closed_ne,if_neg h.router_closed_ne,if_neg hchosen]
  unfold SeparateTraceOutputWriter.fileForPID
  cases hlookup : o.router.files.lookup o.router.selected with
  | some f =>
    obtain ⟨hnone,hlength⟩ := hgood f (h.files _ f hlookup)
    refine ⟨h.outputOpen,h.routerOpen,?_,h.flushErr,hadd _ _ h.files hnone⟩
    dsimp only
    rw [h.writeErr,hnone,hlength]
    simp [checkShortWrite]
  | none =>
    rw [hfs.openError]
    obtain ⟨hnone,hlength⟩ := hgood
      {path := pidPath o.router.basePath o.router.selected
       writer :=
        {size := traceOutputBufferSize
         contents := fs.start o.router.appendMode
          (pidPath o.router.basePath o.router.selected)}} rfl
    refine ⟨h.outputOpen,h.routerOpen,?_,h.flushErr,hadd _ _ (hadd _ _ h.files rfl) hnone⟩
    dsimp only at hnone hlength ⊢
    rw [h.writeErr,hnone,hlength]
    simp [checkShortWrite]

theorem flushFile_clean (hfs : fs.Reliable) {f : SeparateTracePIDFile}
    (hf : f.writer.failure=none) :
    (SeparateTraceOutputWriter.flushFile fs f).2=[] ∧
      (SeparateTraceOutputWriter.flushFile fs f).1.writer.failure=none := by
  have hnone := (BufferedDevice.flush_failure (hfs.device f.path) f.writer).trans hf
  exact ⟨flushFile_reports_nil.mpr hnone,hnone⟩

theorem Clean.flush (h : Clean o) (hfs : fs.Reliable) (visit : Visit ℤ SeparateTracePIDFile) :
    Clean (o.flush fs visit).1 ∧ (o.flush fs visit).2=none := by
  have hreports : (updateAll visit (SeparateTraceOutputWriter.flushFile fs)
      o.router.files).2=[] :=
    (reports_updateAll_eq_nil _ _ _).mpr fun pid f hlookup =>
      (flushFile_clean hfs (h.files pid f hlookup)).1
  unfold TraceOutput.flush SeparateTraceOutputWriter.flush
  rw [if_neg h.closed_ne,if_neg h.router_closed_ne,h.flushErr]
  dsimp only
  rw [if_pos hreports]
  refine ⟨⟨h.outputOpen,h.routerOpen,h.writeErr,rfl,fun pid g hlookup => ?_⟩,rfl⟩
  dsimp only at hlookup
  rw [lookup_updateAll] at hlookup
  obtain ⟨f,hf,rfl⟩ := Option.map_eq_some_iff.mp hlookup
  exact (flushFile_clean hfs (h.files pid f hf)).2

theorem Clean.close (h : Clean o) (hfs : fs.Reliable) (visits : CloseVisits) :
    (o.close fs visits).2=[] := by
  obtain ⟨hflushed,hnone⟩ := h.flush hfs visits.outputFlush
  unfold TraceOutput.close
  rw [if_neg h.closed_ne]
  dsimp only
  rw [hflushed.writeErr,hnone,SeparateTraceOutputWriter.close_eq hflushed.routerOpen]
  dsimp only
  have hflushes : (updateAll visits.routerFlush (SeparateTraceOutputWriter.flushFile fs)
      (o.flush fs visits.outputFlush).1.router.files).2=[] :=
    (reports_updateAll_eq_nil _ _ _).mpr fun pid f hlookup =>
      (flushFile_clean hfs (hflushed.files pid f hlookup)).1
  have hcloses : ∀ files, (updateAll visits.close (SeparateTraceOutputWriter.closeFile fs)
      files).2=[] := by
    intro files
    refine (reports_updateAll_eq_nil _ _ _).mpr fun pid f _ => ?_
    unfold SeparateTraceOutputWriter.closeFile
    rw [hfs.closeError]
    rfl
  rw [hflushes,hcloses]
  rfl

theorem Clean.run (h : Clean o) (hfs : fs.Reliable) {calls : List Call}
    (hchosen : ∀ piece∈routed o.router.selected calls, 0 < piece.1) :
    Clean (o.run fs calls) := by
  induction calls generalizing o with
  | nil => exact h
  | cons call calls ih =>
    have hrest : ∀ piece∈routed (o.perform fs call).router.selected calls, 0 < piece.1 := by
      rw [perform_selected h.outputOpen h.routerOpen]
      exact fun piece hpiece => hchosen piece (List.mem_append_right _ hpiece)
    cases call with
    | selectPID chosen => exact ih (h.selectPID chosen) hrest
    | write data => exact ih (h.write hfs (hchosen _ List.mem_cons_self) data) hrest
    | flush visit => exact ih (h.flush hfs visit).1 hrest

/-- On files on which nothing fails, with a process chosen for every write, the close reports
no error. -/
theorem close_reliable (hfs : fs.Reliable) {outFileOpt : String} {appendMode : Bool}
    (hsetup : setupSeparateOutput outFileOpt appendMode=.ok o) {calls : List Call}
    (hchosen : ∀ piece∈routed 0 calls, 0 < piece.1) (visits : CloseVisits) :
    ((o.run fs calls).close fs visits).2=[] := by
  unfold setupSeparateOutput at hsetup
  split_ifs at hsetup
  cases hsetup
  have hclean : Clean {router := newSeparateTraceOutputWriter outFileOpt appendMode} :=
    ⟨rfl,rfl,rfl,rfl,fun pid f hlookup => by
      have hnone : (∅ : GoMap ℤ SeparateTracePIDFile).lookup pid=none := Finmap.lookup_empty pid
      exact absurd (hlookup.symm.trans hnone) (Option.some_ne_none f)⟩
  exact (hclean.run hfs hchosen).close hfs visits

/-- Files that take everything. -/
def reliableFiles : FileSystem where
  existing _ := []
  openError _ := none
  device _ _ := none
  closeError _ := none

/-- The lines of two processes in turn. -/
def twoProcesses : List Call :=
  [.selectPID 101,.write [65,10],.selectPID 202,.write [66,10],.selectPID 101,.write [67,10]]

end Success

end StraceGo.SeparateOutput

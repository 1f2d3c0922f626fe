import StraceGo.FDStateExec
import StraceGo.LexicalPaths
import StraceGo.PathSelection

/-!
# The tracked working directory

A reference follows the changes of directory of every process on the captured
bytes, component by component. A change that cannot be read leaves the last
known directory. The store works on the text that is shown and on the texts
of descriptors; it agrees with the reference as long as the captured bytes are
shown plainly, a relative path meets a known directory and a descriptor that
becomes the directory has an absolute path.
-/

namespace StraceGo.FDStateCwd

open EventEnvelope FiniteMaps EventTaskLifecycle GoText KeyedMaps FDStateEvents FDState FDStateKeys
  FDStateTable FDStateRefinement FDStateReuse FDStateTaint FDStateCloseRange
  FDStateExec LexicalPaths
  StringRendering PathSelection

section Texts

/-- What a component of a path's text does. -/
def partRole (part : String) : Role :=
  if part="" ∨ part="." then .stay else if part=".." then .up else .into

/-- Directory an absolute path leads to. -/
def directory (path : String) : List String := walk partRole [] (split path '/')

/-- Text of a directory. -/
def render (names : List String) : String := "/" ++ String.intercalate "/" names

/-- The code's loop over components is a walk. -/
theorem cleanComponents_eq_walk (parts : List String) :
    cleanComponents parts=walk partRole [] parts := by
  unfold cleanComponents walk
  congr 1
  funext dir part
  unfold follow partRole
  split_ifs <;> rfl

/-- The code cleans a path to the text of its directory. -/
theorem cleanAbsoluteFDStatePath_eq (path : String) :
    cleanAbsoluteFDStatePath path=render (directory path) := by
  unfold cleanAbsoluteFDStatePath render directory
  rw [cleanComponents_eq_walk]

/-- A text splits at a separator between two others. -/
theorem split_append_slash (a b : String) :
    split (a ++ "/" ++ b) '/'=split a '/' ++ split b '/' := by
  unfold split
  rw [String.toList_append,String.toList_append,List.append_assoc]
  change List.map String.ofList ((a.toList ++ '/'::b.toList).splitOn '/')=_
  rw [List.splitOn_append_cons_self,List.map_append]

/-- A path behind a directory is followed from it. -/
theorem directory_append (a b : String) :
    directory (a ++ "/" ++ b)=walk partRole (directory a) (split b '/') := by
  unfold directory
  rw [split_append_slash,walk_append]

/-- Entries of a directory that a text leads to. -/
structure Entries (names : List String) : Prop where
  /-- They are gone into. -/
  plain : Plain partRole names
  /-- They have no separator. -/
  slash : ∀ name∈names, '/'∉name.toList

/-- A text leads to entries. -/
theorem entries_directory (path : String) : Entries (directory path) where
  plain := plain_walk_nil _
  slash name hname := by
    rcases mem_of_mem_walk hname with hnil | hpart
    · exact absurd hnil List.not_mem_nil
    · obtain ⟨part,hsplit,rfl⟩ := List.mem_map.mp hpart
      rw [String.toList_ofList]
      exact notMem_of_mem_splitOn hsplit

/-- The text of a directory leads back to it. -/
theorem directory_render {names : List String} (h : Entries names) :
    directory (render names)=names := by
  have hsplit : split (render names) '/'=""::split (String.intercalate "/" names) '/' := by
    have happend := split_append_slash "" (String.intercalate "/" names)
    simpa [render,split] using happend
  have hroot : follow partRole [] ""=[] := by decide
  unfold directory
  rw [hsplit,walk_cons,hroot]
  cases hnames : names with
  | nil => decide
  | cons name rest =>
    have hparts : split (String.intercalate "/" (name::rest)) '/'=name::rest :=
      split_intercalate (by simp) (List.cons_ne_nil _ _)
        fun entry hentry => h.slash entry (hnames ▸ hentry)
    rw [hparts,←hnames,walk_of_plain h.plain,List.nil_append]

/-- Cleaning a cleaned path changes nothing. -/
theorem cleanAbsoluteFDStatePath_idempotent (path : String) :
    cleanAbsoluteFDStatePath (cleanAbsoluteFDStatePath path)=cleanAbsoluteFDStatePath path := by
  rw [cleanAbsoluteFDStatePath_eq path,cleanAbsoluteFDStatePath_eq,
    directory_render (entries_directory path)]

/-- A cleaned path is absolute. -/
theorem hasPrefix_render (names : List String) : hasPrefix (render names) "/"=true := by
  unfold hasPrefix render
  rw [String.toList_append]
  simp

end Texts

section Captures

/-- Bytes of the path an event changes the directory to, if they were captured up to their end. -/
def capturedPath (src : FDStateSource) : Option (List UInt8) :=
  (stringPayloadSection src.payloadSections 0).bind fun s =>
    if s.userPtr=0 ∨ 0∉s.data then none else some (s.data.takeWhile (· != 0))

/-- A byte is shown as itself. -/
def plainByte (b : UInt8) : Prop := 32 ≤ b ∧ b ≤ 126 ∧ b≠34 ∧ b≠92

/-- The captured path is shown as it is: no byte is escaped and none is cut off. -/
def ShownPlainly (d : Decoder) (src : FDStateSource) : Prop :=
  ∀ s∈stringPayloadSection src.payloadSections 0, s.userPtr≠0 →
    (0∈s.data → d.hexEscapeMode≠2 ∧ (s.data.takeWhile (· != 0)).length ≤ 4095 ∧
      ∀ b∈s.data.takeWhile (· != 0), plainByte b) ∧
    (0∉s.data → s.data.length < 4096)

/-- Bytes before the first zero. -/
theorem take_idxOf_zero {data : List UInt8} {idx : ℕ} (h : data.idxOf? 0=some idx) :
    data.take idx=data.takeWhile (· != 0) := by
  induction data generalizing idx with
  | nil => simp at h
  | cons b bs ih =>
    rw [List.idxOf?_cons] at h
    by_cases hb : b=0
    · subst hb
      simp only [beq_self_eq_true,if_true,Option.some.injEq] at h
      subst h
      simp
    · rw [if_neg (by simpa using hb)] at h
      obtain ⟨other,hother,rfl⟩ := Option.map_eq_some_iff.mp h
      rw [List.take_succ_cons,ih hother,List.takeWhile_cons,if_pos (by simpa using hb)]

/-- What the decoder reads of a captured section: the bytes before the first zero. -/
theorem decodedBytes_of_zero {data : List UInt8} (h : 0∈data) :
    decodedBytes data 0 0=some (data.takeWhile (· != 0),false) := by
  obtain ⟨idx,hidx⟩ : ∃ idx, data.idxOf? 0=some idx := by
    rw [←Option.isSome_iff_exists,List.isSome_idxOf?]
    exact h
  have hne : data≠[] := List.ne_nil_of_mem h
  have hbound : (idx : ℤ) ≤ data.length-1 := by
    obtain ⟨hlt,-⟩ := List.idxOf?_eq_some_iff.mp hidx
    omega
  unfold decodedBytes parseBPFData
  rw [if_neg hne,hidx]
  simp [take_idxOf_zero hidx,hbound]

/-- Without a zero too few bytes are no path. -/
theorem decodedBytes_of_no_zero {data : List UInt8} (h : 0∉data) (hlength : data.length < 4096) :
    decodedBytes data 0 0=none := by
  have hidx : data.idxOf? 0=none := by
    rw [List.idxOf?_eq_none_iff]
    exact h
  unfold decodedBytes parseBPFData
  by_cases hempty : data=[]
  · rw [if_pos hempty]
  · rw [if_neg hempty,hidx]
    simpa using hlength

/-- Bytes shown as they are. -/
theorem bufferEscape_plain {d : Decoder} {raw : List UInt8} (hmode : d.hexEscapeMode≠2)
    (hlength : raw.length ≤ 4095) (hplain : ∀ b∈raw, plainByte b) :
    bufferEscape raw 4095 0 d.hexEscapeMode="\"" ++ ofBytes raw ++ "\"" := by
  have hshort : ∀ b∈raw, shortEscape b=none := by
    intro b hb
    obtain ⟨hlow,hhigh,hquote,hslash⟩ := hplain b hb
    unfold shortEscape
    have hnat : 32 ≤ b.toNat := UInt8.le_iff_toNat_le.mp hlow
    have hne : ∀ c : UInt8, c.toNat < 32 → b≠c := by
      rintro c hc rfl
      omega
    rw [if_neg (hne 10 (by decide)),if_neg (hne 13 (by decide)),if_neg (hne 9 (by decide)),
      if_neg (hne 11 (by decide)),if_neg (hne 12 (by decide)),if_neg hslash,if_neg hquote]
  have hprintable : raw.any unprintable=false := by
    rw [List.any_eq_false]
    intro b hb hun
    exact ((unprintable_iff b).mp hun).2 ⟨(hplain b hb).1,(hplain b hb).2.1⟩
  have hmode' : effectiveMode d.hexEscapeMode raw=d.hexEscapeMode := by
    unfold effectiveMode
    rw [if_neg (by simp [hprintable])]
  have hprinted : printedLength raw.length 4095=raw.length := by
    unfold printedLength
    split_ifs with hlimit
    · rfl
    · have : raw.length=4095 := by omega
      rw [this]
      rfl
  have hbytes : raw.flatMap (escapeByte d.hexEscapeMode)=raw.map fun b => Char.ofNat b.toNat := by
    rw [List.map_eq_flatMap]
    apply List.flatMap_congr
    intro b hb
    unfold escapeByte
    rw [if_neg hmode,hshort b hb]
    exact if_pos ⟨(hplain b hb).1,(hplain b hb).2.1⟩
  unfold bufferEscape
  split_ifs with hempty
  · rw [hempty]
    rfl
  · dsimp only
    rw [hprinted,List.take_length,hmode',hbytes,if_neg (by omega)]
    simp [ofBytes]

/-- A quoted text loses its quotes. -/
theorem unquotedPath_quoted (text : String) : unquotedPath ("\"" ++ text ++ "\"")=text := by
  have hquoted : ("\"" ++ text ++ "\"").toList=Char.ofNat 34::(text.toList ++ [Char.ofNat 34]) := by
    rw [String.toList_append,String.toList_append]
    rfl
  have hfront : trimPrefix ("\"" ++ text ++ "\"") "\""=text ++ "\"" := by
    unfold trimPrefix
    rw [if_pos (by unfold hasPrefix; rw [hquoted]; simp)]
    apply String.toList_inj.mp
    rw [String.toList_ofList,hquoted,String.toList_append]
    rfl
  have hback : hasSuffix (text ++ "\"") "\""=true := by
    unfold hasSuffix
    rw [String.toList_append,List.isSuffixOf_iff_suffix]
    exact List.suffix_append _ _
  unfold unquotedPath trimSuffix
  rw [hfront,if_pos hback]
  apply String.toList_inj.mp
  rw [String.toList_ofList,String.toList_append]
  simp

/-- A quoted text is a path. -/
theorem isPathText_quoted (text : String) : isPathText ("\"" ++ text ++ "\"")=true := by
  have hquoted : ("\"" ++ text ++ "\"").toList=Char.ofNat 34::(text.toList ++ [Char.ofNat 34]) := by
    rw [String.toList_append,String.toList_append]
    rfl
  have hne : ∀ other : String, other.toList.head?≠some (Char.ofNat 34) →
      "\"" ++ text ++ "\""≠other := by
    rintro other hother rfl
    rw [hquoted] at hother
    exact hother rfl
  have haddress : hasPrefix ("\"" ++ text ++ "\"") "0x"=false := by
    unfold hasPrefix
    rw [hquoted]
    rfl
  unfold isPathText
  rw [beq_eq_false_iff_ne.mpr (hne "" (by decide)),haddress,
    beq_eq_false_iff_ne.mpr (hne "NULL" (by decide))]
  rfl

/-- Addresses and null are no paths. -/
theorem isPathText_address (n : ℕ) : isPathText ("0x" ++ hex n)=false := by
  have haddress : hasPrefix ("0x" ++ hex n) "0x"=true := by
    unfold hasPrefix
    rw [String.toList_append,List.isPrefixOf_iff_prefix]
    exact List.prefix_append _ _
  unfold isPathText
  rw [haddress]
  simp

/-- What the section of a captured string says of its probe. -/
theorem probeRet_of_stringPayloadSection {sections : List PayloadSection} {argIndex : ℕ}
    {s : PayloadSection} (h : stringPayloadSection sections argIndex=some s) : s.probeRet=0 := by
  have hfound := List.find?_some h
  simp only [Bool.and_eq_true,beq_iff_eq] at hfound
  exact hfound.1.2

/-- The text of a captured path, shown plainly, is its bytes between quotes. -/
theorem pathArgumentText_captured {d : Decoder} {src : FDStateSource} {raw : List UInt8}
    (h : capturedPath src=some raw) (hshown : ShownPlainly d src) :
    pathArgumentText d src 0="\"" ++ ofBytes raw ++ "\"" := by
  unfold capturedPath at h
  unfold pathArgumentText
  cases hsection : stringPayloadSection src.payloadSections 0 with
  | none =>
    rw [hsection] at h
    exact absurd h.symm (Option.some_ne_none raw)
  | some s =>
    rw [hsection,Option.bind_some] at h
    split_ifs at h with hguard
    obtain ⟨hptr,hzero⟩ := not_or.mp hguard
    obtain rfl := Option.some.inj h
    obtain ⟨hmode,hlength,hplain⟩ := (hshown s hsection hptr).1 (not_not.mp hzero)
    dsimp only
    unfold Decoder.decodeString
    rw [if_neg hptr,probeRet_of_stringPayloadSection hsection,
      decodedBytes_of_zero (not_not.mp hzero)]
    exact bufferEscape_plain hmode hlength hplain

/-- The text of a path that was not captured is no path. -/
theorem pathArgumentText_missing {d : Decoder} {src : FDStateSource} (h : capturedPath src=none)
    (hshown : ShownPlainly d src) : isPathText (pathArgumentText d src 0)=false := by
  have hnull : isPathText "NULL"=false := by decide
  unfold capturedPath at h
  unfold pathArgumentText Decoder.decodeString
  cases hsection : stringPayloadSection src.payloadSections 0 with
  | none =>
    dsimp only
    split_ifs
    · exact hnull
    · exact isPathText_address _
  | some s =>
    rw [hsection,Option.bind_some] at h
    dsimp only
    by_cases hptr : s.userPtr=0
    · rw [if_pos hptr]
      exact hnull
    · rw [if_neg hptr]
      have hzero : 0∉s.data := by
        by_contra hzero
        rw [if_neg (not_or.mpr ⟨hptr,not_not.mpr hzero⟩)] at h
        exact Option.some_ne_none _ h
      rw [probeRet_of_stringPayloadSection hsection,
        decodedBytes_of_no_zero hzero ((hshown s hsection hptr).2 hzero)]
      exact isPathText_address _

end Captures

section Reference

/-- Path of a descriptor once the paths the event itself carries are recorded. -/
def trackedPath (st : FDStateStore) (update : FDStateUpdate) (fd : Int32) : Option String :=
  (runWriter update.targetPID st.paths fun _ => overlayPathWrites update).lookup
    (slotKey update.targetPID (.fd fd))

/-- Directory an event found its process in, if it was captured. -/
def capturedCwd (update : FDStateUpdate) : Option String :=
  if update.source.view.valid=true ∧
      (fdPathOverlayFromSections update.source.payloadSections).cwdPath≠"" then
    some (fdPathOverlayFromSections update.source.payloadSections).cwdPath
  else none

/-- Directory after a path is followed from another, if that is known. -/
def followPath (cwd : Option String) (raw : List UInt8) : Option String :=
  if raw.head?=some 47 then some (render (walk partRole [] (split (ofBytes raw) '/')))
  else cwd.map fun base => render (walk partRole (directory base) (split (ofBytes raw) '/'))

/-- Directory of a process after an event; `unreadable` says what a change that cannot be read
leaves of the last one. -/
def cwdAfterEvent (unreadable : Option String → Option String) (st : FDStateStore)
    (cwd : Option String) (update : FDStateUpdate) : Option String :=
  let base := cwd.or (capturedCwd update)
  if update.source.view.valid=false ∨ update.source.view.ret≠0 then base
  else
    match update.name with
    | .chdir =>
      match capturedPath update.source with
      | none => unreadable base
      | some raw => followPath base raw
    | .fchdir =>
      match trackedPath st update (fdArg update.source.view.args[0]) with
      | none => unreadable base
      | some path => some path
    | _ => base

/-- Directories of all processes after an operation. -/
def cwdsAfter (unreadable : Option String → Option String) (st : FDStateStore)
    (cwds : ℤ → Option String) (op : FDStateOp) : ℤ → Option String :=
  match op with
  | .applyFDState update => fun pid =>
    if pid=update.targetPID then cwdAfterEvent unreadable st (cwds pid) update else cwds pid
  | .inheritProcessState parentPID childPID => fun pid =>
    if 0 < parentPID ∧ 0 < childPID ∧ pid=childPID then (cwds parentPID).or (cwds pid)
    else cwds pid
  | .cleanupProcess other => fun pid => if pid=other then none else cwds pid
  | _ => cwds

/-- Directories of all processes after a run. -/
def referenceCwds (unreadable : Option String → Option String) (tables : SyscallTables) :
    FDStateStore → (ℤ → Option String) → List (FDStateOp×LoopOrders) → ℤ → Option String
  | _,cwds,[] => cwds
  | st,cwds,op::ops =>
    referenceCwds unreadable tables (st.perform tables op.1 op.2)
      (cwdsAfter unreadable st cwds op.1) ops

/-- What every caller ensures: names are those of the table, and the text of a changed directory is
the one its decoder shows, or none where nothing was captured. -/
def Prepared (tables : SyscallTables) (d : Decoder) (op : FDStateOp) : Prop :=
  Named tables op ∧ ∀ update, op=.applyFDState update → update.name=.chdir →
    update.pathText=pathArgumentText d update.source 0 ∨
      update.source.payloadSections=[] ∧ update.pathText=""

/-- An event is followed faithfully: a captured directory is absolute, a changed one is shown
plainly, a relative path meets a known directory, and a descriptor that becomes the directory has an
absolute path. -/
structure Followed (d : Decoder) (st : FDStateStore) (update : FDStateUpdate) : Prop where
  /-- The captured directory. -/
  captured : ∀ path, capturedCwd update=some path → hasPrefix path "/"=true
  /-- The shown path. -/
  shown : update.name=.chdir → update.source.view.valid=true → update.source.view.ret=0 →
    ShownPlainly d update.source
  /-- A relative path. -/
  relative : update.name=.chdir → update.source.view.valid=true → update.source.view.ret=0 →
    ∀ raw, capturedPath update.source=some raw → raw.head?≠some 47 →
      st.cwd update.targetPID≠none ∨ capturedCwd update≠none
  /-- A descriptor. -/
  descriptor : update.name=.fchdir → update.source.view.valid=true → update.source.view.ret=0 →
    ∀ path, trackedPath st update (fdArg update.source.view.args[0])=some path →
      hasPrefix path "/"=true

/-- Every event of a run is followed faithfully, unless history was lost before. -/
def FollowedRun (tables : SyscallTables) (d : Decoder) :
    FDStateStore → List (FDStateOp×LoopOrders) → Prop
  | _,[] => True
  | st,op::ops =>
    (∀ update, op.1=.applyFDState update → st.tainted=false → Followed d st update) ∧
      FollowedRun tables d (st.perform tables op.1 op.2) ops

end Reference

section Writers

variable {update : FDStateUpdate} {pid : ℤ} {f : FDKey → Option String}

/-- A step writes descriptors only. -/
def WritesDescriptors (writer : Reader String → Writes String) : Prop :=
  ∀ r, ∀ w∈writer r, ∃ fd, w.address=.fd fd

/-- Such steps leave the directory. -/
theorem writeProcess_cwd {writer : Reader String → Writes String} (h : WritesDescriptors writer) :
    writeProcess pid f writer (pid,.cwd)=f (pid,.cwd) := by
  apply writeAll_of_ne
  intro w hw hkey
  obtain ⟨fd,hfd⟩ := h _ w hw
  rw [hfd] at hkey
  exact FDSlot.noConfusion (Prod.mk.inj hkey).2

theorem foldl_writeProcess_cwd {writers : List (Reader String → Writes String)}
    (h : ∀ writer∈writers, WritesDescriptors writer) :
    writers.foldl (writeProcess pid) f (pid,.cwd)=f (pid,.cwd) := by
  induction writers generalizing f with
  | nil => rfl
  | cons writer writers ih =>
    rw [List.foldl_cons,ih fun other hother => h other (List.mem_cons_of_mem writer hother),
      writeProcess_cwd (h writer List.mem_cons_self)]

/-- Steps between the ones that write directories. -/
def descriptorWriters (update : FDStateUpdate) : List (Reader String → Writes String) :=
  [fun _ => updateFdReturnMapFromSource update,
   updateOpenedPathFDMapFromView update,
   updateDupFDMapFromSource update,
   fun _ => updatePipeFDMapFromPayload update,
   fun _ => updateSocketpairFDMap update,
   updateNetlinkFDMap update,
   fun _ => updateSocketFDMapFromSource update]

/-- Steps behind the ones that write directories. -/
def counterWriters (update : FDStateUpdate) : List (Reader String → Writes String) :=
  [fun _ => updateEventFDMapFromSource update,updateEventFDCountFromSource update]

theorem pathWriters_eq_parts :
    pathWriters update=[fun _ => overlayPathWrites update,overlayCwdWrites update] ++
      descriptorWriters update ++ [updateCwdFDMapFromView update] ++ counterWriters update := rfl

theorem writesDescriptors_overlay : WritesDescriptors fun _ => overlayPathWrites update := by
  intro r w hw
  obtain ⟨fd,_,hfd⟩ := List.mem_filterMap.mp hw
  obtain ⟨v,_,rfl⟩ := Option.map_eq_some_iff.mp hfd
  exact ⟨fd,rfl⟩

/-- Steps that record descriptors write descriptors. -/
theorem writesDescriptors_descriptorWriters :
    ∀ writer∈descriptorWriters update, WritesDescriptors writer := by
  intro writer hwriter r w hw
  simp only [descriptorWriters,List.mem_cons,List.not_mem_nil,or_false] at hwriter
  rcases hwriter with rfl | rfl | rfl | rfl | rfl | rfl | rfl
  · unfold updateFdReturnMapFromSource at hw
    repeat' split at hw
    all_goals simp_all [forget]
  · unfold updateOpenedPathFDMapFromView at hw
    repeat' split at hw
    all_goals simp_all [remember]
  · unfold updateDupFDMapFromSource at hw
    split at hw
    · simp at hw
    · rcases List.mem_append.mp hw with hw | hw
      · split at hw <;> simp_all [forget]
      · repeat' split at hw
        all_goals simp_all [remember]
  · unfold updatePipeFDMapFromPayload pairWrites at hw
    repeat' split at hw
    all_goals simp_all [remember]
    rcases hw with rfl | rfl <;> exact ⟨_,rfl⟩
  · unfold updateSocketpairFDMap pairWrites at hw
    repeat' split at hw
    all_goals simp_all [remember]
    rcases hw with rfl | rfl <;> exact ⟨_,rfl⟩
  · unfold updateNetlinkFDMap at hw
    repeat' split at hw
    all_goals simp_all [remember]
  · unfold updateSocketFDMapFromSource at hw
    split at hw <;> simp_all [remember]

theorem writesDescriptors_counterWriters :
    ∀ writer∈counterWriters update, WritesDescriptors writer := by
  intro writer hwriter r w hw
  simp only [counterWriters,List.mem_cons,List.not_mem_nil,or_false] at hwriter
  rcases hwriter with rfl | rfl
  · unfold updateEventFDMapFromSource at hw
    repeat' split at hw
    all_goals simp_all [remember]
  · unfold updateEventFDCountFromSource at hw
    repeat' split at hw
    all_goals simp_all [remember]

/-- A written directory is read back. -/
theorem writeProcess_write_cwd {pid : ℤ} {f : FDKey → Option String}
    {writer : Reader String → Writes String} {path : String}
    (h : writer (fun slot => f (pid,slot))=[⟨.cwd,some path⟩]) :
    writeProcess pid f writer (pid,.cwd)=some path := by
  rw [writeProcess,h]
  simp [writeAll]

/-- A step that writes nothing leaves the directory. -/
theorem writeProcess_nil_cwd {pid : ℤ} {f : FDKey → Option String}
    {writer : Reader String → Writes String} (h : writer (fun slot => f (pid,slot))=[]) :
    writeProcess pid f writer (pid,.cwd)=f (pid,.cwd) := by
  rw [writeProcess,h]
  rfl

end Writers

section Steps

variable {tables : SyscallTables} {d : Decoder} {st : FDStateStore} {t : DescriptorTable}
  {update : FDStateUpdate}

/-- Paths once the event's own paths and directory are recorded. -/
def overlaid (t : DescriptorTable) (update : FDStateUpdate) : FDKey → Option String :=
  writeProcess update.targetPID
    (writeProcess update.targetPID t.paths fun _ => overlayPathWrites update)
    (overlayCwdWrites update)

/-- The directory once the event's own is recorded. -/
theorem overlaid_cwd :
    overlaid t update (update.targetPID,.cwd)=
      (t.paths (update.targetPID,.cwd)).or (capturedCwd update) := by
  have hoverlay : writeProcess update.targetPID t.paths (fun _ => overlayPathWrites update)
      (update.targetPID,.cwd)=t.paths (update.targetPID,.cwd) :=
    writeProcess_cwd writesDescriptors_overlay
  unfold overlaid
  by_cases hcaptured : update.source.view.valid=true ∧
      (fdPathOverlayFromSections update.source.payloadSections).cwdPath≠""
  · cases hcwd : t.paths (update.targetPID,.cwd) with
    | some path =>
      rw [writeProcess_nil_cwd (by simp [overlayCwdWrites,hoverlay.trans hcwd]),hoverlay,hcwd]
      rfl
    | none =>
      unfold capturedCwd
      rw [if_pos hcaptured,Option.none_or]
      apply writeProcess_write_cwd
      unfold overlayCwdWrites
      exact if_pos ⟨hcaptured.2,hcaptured.1,hoverlay.trans hcwd⟩
  · have hnil : ∀ r, overlayCwdWrites update r=[] := by
      intro r
      exact if_neg fun hwrite => hcaptured ⟨hwrite.2.1,hwrite.1⟩
    unfold capturedCwd
    rw [if_neg hcaptured,Option.or_none,writeProcess_nil_cwd (hnil _),hoverlay]

/-- The path of a descriptor once the event's own are recorded. -/
theorem overlaid_fd (h : Represents st t) (fd : Int32) :
    overlaid t update (update.targetPID,.fd fd)=trackedPath st update fd := by
  have htracked := (mirrors_runWriter h.paths update.targetPID
    fun _ => overlayPathWrites update).lookup (update.targetPID,.fd fd)
  unfold trackedPath
  refine Eq.trans ?_ htracked.symm
  unfold overlaid
  apply writeAll_of_ne
  intro w hw hkey
  unfold overlayCwdWrites at hw
  split_ifs at hw
  · rw [List.mem_singleton.mp hw] at hkey
    exact FDSlot.noConfusion (Prod.mk.inj hkey).2
  · exact List.not_mem_nil hw

/-- The directory after an event is written by its step for directories. -/
theorem cwd_recordFDState :
    (t.recordFDState update).paths (update.targetPID,.cwd)=
      writeProcess update.targetPID
        ((descriptorWriters update).foldl (writeProcess update.targetPID) (overlaid t update))
        (updateCwdFDMapFromView update) (update.targetPID,.cwd) := by
  change (pathWriters update).foldl (writeProcess update.targetPID) t.paths _=_
  rw [pathWriters_eq_parts,List.foldl_append,
    foldl_writeProcess_cwd writesDescriptors_counterWriters,List.foldl_append,List.foldl_append]
  rfl

/-- A change of directory records no descriptor. -/
theorem descriptorWriters_nil (hname : update.name=.chdir ∨ update.name=.fchdir) :
    (descriptorWriters update).foldl (writeProcess update.targetPID) (overlaid t update)=
      overlaid t update := by
  have hnil : ∀ writer∈descriptorWriters update, ∀ r, writer r=[] := by
    intro writer hwriter r
    have hkind : isFDStateCreatorName update.name=false ∧
        isOpenedPathFDStateSyscall update.name=false ∧ namesPipeOrSocket update.name=false := by
      rcases hname with hname | hname <;> rw [hname] <;> exact ⟨rfl,rfl,rfl⟩
    obtain ⟨hcreated,hopened⟩ := createdWrites_nil hkind.1 hkind.2.1 r
    obtain ⟨hpipe,hsocketpair,hnetlink,hsocket⟩ := pipeAndSocketWrites_nil hkind.2.2 r
    simp only [descriptorWriters,List.mem_cons,List.not_mem_nil,or_false] at hwriter
    rcases hwriter with rfl | rfl | rfl | rfl | rfl | rfl | rfl
    · exact hcreated
    · exact hopened
    · rcases hname with hname | hname <;>
        simp [updateDupFDMapFromSource,duplicatedFDsFromView,hname,isDuplicatedFDStateSyscall,
          isFcntlFDStateSyscall]
    · exact hpipe
    · exact hsocketpair
    · exact hnetlink
    · exact hsocket
  have hfold : ∀ (writers : List (Reader String → Writes String)) (f : FDKey → Option String),
      (∀ writer∈writers, ∀ r, writer r=[]) →
      writers.foldl (writeProcess update.targetPID) f=f := by
    intro writers
    induction writers with
    | nil => exact fun _ _ => rfl
    | cons writer writers ih =>
      intro f hwriters
      rw [List.foldl_cons,writeProcess,hwriters writer List.mem_cons_self]
      exact ih f fun other hother => hwriters other (List.mem_cons_of_mem writer hother)
  exact hfold _ _ hnil

/-- Bytes of an absolute path. -/
theorem hasPrefix_ofBytes (raw : List UInt8) :
    hasPrefix (ofBytes raw) "/"=true ↔ raw.head?=some 47 := by
  unfold hasPrefix ofBytes
  rw [String.toList_ofList]
  cases raw with
  | nil => decide
  | cons b bs =>
    have hslash : '/'=Char.ofNat b.toNat ↔ b=47 := by
      constructor
      · intro hchar
        have hvalid : b.toNat.isValidChar := Or.inl (Nat.lt_of_lt_of_le b.toNat_lt (by decide))
        have hvalue : (Char.ofNat b.toNat).toNat=47 := (congrArg Char.toNat hchar).symm
        rw [Char.ofNat,dif_pos hvalid] at hvalue
        exact UInt8.toNat_inj.mp hvalue
      · rintro rfl
        rfl
    simp [hslash]

/-- Cleaning a captured path against a known directory follows it. -/
theorem cleanFDStatePath_eq_followPath {cwd : Option String} {raw : List UInt8}
    (hbase : ∀ base, cwd=some base → hasPrefix base "/"=true)
    (hknown : raw.head?≠some 47 → cwd≠none) :
    some (cleanFDStatePath (cwd.getD "") (ofBytes raw))=followPath cwd raw := by
  unfold cleanFDStatePath followPath
  by_cases habsolute : raw.head?=some 47
  · rw [if_pos ((hasPrefix_ofBytes raw).mpr habsolute),if_pos habsolute,
      cleanAbsoluteFDStatePath_eq]
    rfl
  · obtain ⟨base,rfl⟩ := Option.ne_none_iff_exists'.mp (hknown habsolute)
    have hempty : base≠"" := by
      rintro rfl
      exact absurd (hbase "" rfl) (by decide)
    rw [if_neg fun hprefix => habsolute ((hasPrefix_ofBytes raw).mp hprefix),if_neg habsolute,
      Option.getD_some,if_neg hempty,cleanAbsoluteFDStatePath_eq,directory_append]
    rfl

/-- Directories an event starts from are absolute. -/
theorem base_absolute (hfollowed : Followed d st update)
    (habsolute : ∀ path, t.paths (update.targetPID,.cwd)=some path → hasPrefix path "/"=true) :
    ∀ path, (t.paths (update.targetPID,.cwd)).or (capturedCwd update)=some path →
      hasPrefix path "/"=true := by
  intro path hpath
  cases hcwd : t.paths (update.targetPID,.cwd) with
  | some known =>
    rw [hcwd,Option.some_or] at hpath
    exact habsolute path (hcwd.trans hpath)
  | none =>
    rw [hcwd,Option.none_or] at hpath
    exact hfollowed.captured path hpath

/-- A change of directory by a path follows the path. -/
theorem chdir_recordFDState (hst : Represents st t) (htainted : st.tainted=false)
    (hfollowed : Followed d st update) (hname : update.name=.chdir)
    (htext : update.pathText=pathArgumentText d update.source 0 ∨
      update.source.payloadSections=[] ∧ update.pathText="")
    (habsolute : ∀ path, t.paths (update.targetPID,.cwd)=some path → hasPrefix path "/"=true)
    (hvalid : update.source.view.valid=true) (hret : update.source.view.ret=0) :
    (t.recordFDState update).paths (update.targetPID,.cwd)=
      match capturedPath update.source with
      | none => (t.paths (update.targetPID,.cwd)).or (capturedCwd update)
      | some raw => followPath ((t.paths (update.targetPID,.cwd)).or (capturedCwd update)) raw := by
  have hshown := hfollowed.shown hname hvalid hret
  rw [cwd_recordFDState,descriptorWriters_nil (Or.inl hname)]
  cases hcaptured : capturedPath update.source with
  | none =>
    have hnotPath : isPathText update.pathText=false := by
      rcases htext with htext | ⟨-,htext⟩
      · rw [htext]
        exact pathArgumentText_missing hcaptured hshown
      · rw [htext]
        decide
    rw [writeProcess_nil_cwd (by simp [updateCwdFDMapFromView,hvalid,hret,hname,hnotPath])]
    exact overlaid_cwd
  | some raw =>
    have htext : update.pathText="\"" ++ ofBytes raw ++ "\"" := by
      rcases htext with htext | ⟨hsections,-⟩
      · rw [htext]
        exact pathArgumentText_captured hcaptured hshown
      · simp [capturedPath,hsections,stringPayloadSection] at hcaptured
    have hknown : raw.head?≠some 47 →
        (t.paths (update.targetPID,.cwd)).or (capturedCwd update)≠none := by
      intro hrelative hnone
      obtain ⟨hcwd,hown⟩ := Option.or_eq_none_iff.mp hnone
      rcases hfollowed.relative hname hvalid hret raw hcaptured hrelative with hknown | hknown
      · unfold FDStateStore.cwd at hknown
        rw [htainted] at hknown
        exact hknown ((hst.paths.lookup (update.targetPID,.cwd)).trans hcwd)
      · exact hknown hown
    dsimp only
    rw [←cleanFDStatePath_eq_followPath (base_absolute hfollowed habsolute) hknown]
    apply writeProcess_write_cwd
    unfold updateCwdFDMapFromView
    rw [if_neg (by simp [hvalid,hret]),if_pos hname,htext,isPathText_quoted,unquotedPath_quoted]
    simp [overlaid_cwd]

/-- A change of directory by a descriptor takes the descriptor's path. -/
theorem fchdir_recordFDState (hst : Represents st t) (hname : update.name=.fchdir)
    (hvalid : update.source.view.valid=true) (hret : update.source.view.ret=0) :
    (t.recordFDState update).paths (update.targetPID,.cwd)=
      match trackedPath st update (fdArg update.source.view.args[0]) with
      | none => (t.paths (update.targetPID,.cwd)).or (capturedCwd update)
      | some path => some path := by
  rw [cwd_recordFDState,descriptorWriters_nil (Or.inr hname),←overlaid_fd hst]
  cases htracked : overlaid t update (update.targetPID,.fd (fdArg update.source.view.args[0])) with
  | none =>
    rw [writeProcess_nil_cwd (by simp [updateCwdFDMapFromView,hvalid,hret,hname,htracked])]
    exact overlaid_cwd
  | some path =>
    apply writeProcess_write_cwd
    simp [updateCwdFDMapFromView,hvalid,hret,hname,htracked]

/-- Any other event leaves the directory, but for one it captured. -/
theorem other_recordFDState (h : update.source.view.valid=false ∨ update.source.view.ret≠0 ∨
    update.name≠.chdir ∧ update.name≠.fchdir) :
    (t.recordFDState update).paths (update.targetPID,.cwd)=
      (t.paths (update.targetPID,.cwd)).or (capturedCwd update) := by
  have hnil : ∀ r, updateCwdFDMapFromView update r=[] := by
    intro r
    unfold updateCwdFDMapFromView
    rcases h with hvalid | hret | ⟨hchdir,hfchdir⟩
    · rw [if_pos (Or.inl hvalid)]
    · rw [if_pos (Or.inr hret)]
    · rw [if_neg hchdir,if_neg hfchdir]
      split_ifs <;> rfl
  rw [cwd_recordFDState,writeProcess_nil_cwd (hnil _),
    foldl_writeProcess_cwd writesDescriptors_descriptorWriters]
  exact overlaid_cwd

/-- The directory after an event that is recorded is the reference's. -/
theorem cwd_recordFDState_eq (hst : Represents st t) (htainted : st.tainted=false)
    (hfollowed : Followed d st update)
    (htext : update.name=.chdir → update.pathText=pathArgumentText d update.source 0 ∨
      update.source.payloadSections=[] ∧ update.pathText="")
    (habsolute : ∀ path, t.paths (update.targetPID,.cwd)=some path → hasPrefix path "/"=true) :
    (t.recordFDState update).paths (update.targetPID,.cwd)=
      cwdAfterEvent id st (t.paths (update.targetPID,.cwd)) update := by
  unfold cwdAfterEvent
  by_cases hskip : update.source.view.valid=false ∨ update.source.view.ret≠0
  · rw [if_pos hskip]
    exact other_recordFDState (by tauto)
  · rw [if_neg hskip]
    obtain ⟨hvalid,hret⟩ := not_or.mp hskip
    have hvalid : update.source.view.valid=true := by simpa using hvalid
    have hret : update.source.view.ret=0 := not_not.mp hret
    by_cases hchdir : update.name=.chdir
    · rw [hchdir]
      exact chdir_recordFDState hst htainted hfollowed hchdir (htext hchdir) habsolute hvalid hret
    · by_cases hfchdir : update.name=.fchdir
      · rw [hfchdir]
        exact fchdir_recordFDState hst hfchdir hvalid hret
      · rw [other_recordFDState (Or.inr (Or.inr ⟨hchdir,hfchdir⟩))]
        split <;> simp_all

/-- The reference's directory after an event is absolute. -/
theorem cwdAfterEvent_absolute (hfollowed : Followed d st update)
    (habsolute : ∀ path, t.paths (update.targetPID,.cwd)=some path → hasPrefix path "/"=true)
    {path : String}
    (h : cwdAfterEvent id st (t.paths (update.targetPID,.cwd)) update=some path) :
    hasPrefix path "/"=true := by
  have hbase := base_absolute hfollowed habsolute
  unfold cwdAfterEvent at h
  by_cases hskip : update.source.view.valid=false ∨ update.source.view.ret≠0
  · rw [if_pos hskip] at h
    exact hbase path h
  · rw [if_neg hskip] at h
    obtain ⟨hvalid,hret⟩ := not_or.mp hskip
    have hvalid : update.source.view.valid=true := by simpa using hvalid
    have hret : update.source.view.ret=0 := not_not.mp hret
    split at h
    case h_1 =>
      cases hcaptured : capturedPath update.source with
      | none =>
        rw [hcaptured] at h
        exact hbase path h
      | some raw =>
        rw [hcaptured] at h
        unfold followPath at h
        dsimp only at h
        split_ifs at h
        · rw [←Option.some.inj h]
          exact hasPrefix_render _
        · obtain ⟨base,-,rfl⟩ := Option.map_eq_some_iff.mp h
          exact hasPrefix_render _
    case h_2 hname =>
      cases htracked : trackedPath st update (fdArg update.source.view.args[0]) with
      | none =>
        rw [htracked] at h
        exact hbase path h
      | some tracked =>
        rw [htracked] at h
        obtain rfl := Option.some.inj h
        exact hfollowed.descriptor hname hvalid hret tracked htracked
    case h_3 => exact hbase path h

/-- An event that is not recorded does not change the reference. -/
theorem cwdAfterEvent_of_not_applied (cwd : Option String)
    (hnamed : update.name=syscallName (tables.name update.source.view.sysID))
    (h : shouldApplyFDStateEvent tables update.source.view update.name
      update.source.payloadSections=false) : cwdAfterEvent id st cwd update=cwd := by
  unfold shouldApplyFDStateEvent at h
  rw [syscallEventTraitsForView_eq hnamed] at h
  have hsections : update.source.payloadSections=[] := by
    by_contra hsections
    rw [if_pos hsections] at h
    exact Bool.noConfusion h
  rw [if_neg (not_not.mpr hsections)] at h
  have hcaptured : capturedCwd update=none := by
    simp [capturedCwd,hsections,fdPathOverlayFromSections]
  unfold cwdAfterEvent
  dsimp only
  rw [hcaptured,Option.or_none]
  by_cases hskip : update.source.view.valid=false ∨ update.source.view.ret≠0
  · rw [if_pos hskip]
  · rw [if_neg hskip]
    rw [if_neg (not_or.mp hskip).1] at h
    split
    case h_1 hname =>
      rw [hname] at h
      exact absurd h (by simp [syscallEventTraitsForName])
    case h_2 hname =>
      rw [hname] at h
      exact absurd h (by simp [syscallEventTraitsForName])
    case h_3 => rfl

end Steps

section Runs

variable {tables : SyscallTables} {d : Decoder} {st : FDStateStore} {t : DescriptorTable}
  {cwds : ℤ → Option String}

/-- While no history is lost, the directories are those of the reference, and absolute. -/
structure Tracks (t : DescriptorTable) (cwds : ℤ → Option String) : Prop where
  /-- The same directories. -/
  same : ∀ pid, t.paths (pid,.cwd)=cwds pid
  /-- They are absolute. -/
  absolute : ∀ pid path, t.paths (pid,.cwd)=some path → hasPrefix path "/"=true

/-- A range call leaves the directory. -/
theorem cwd_updateCloseRangeState (view : SyscallEventView) (pid owner : ℤ) :
    (t.updateCloseRangeState view pid).paths (owner,.cwd)=t.paths (owner,.cwd) := by
  have hout : inRange pid view.args[0].toUInt32 view.args[1].toUInt32 (owner,.cwd)=false := by
    simp [inRange,slotNumber]
  exact congrArg FDEntry.path (entry_updateCloseRangeState_of_not_inRange hout)

/-- The directory after an event is the reference's. -/
theorem cwd_applyFDState {update : FDStateUpdate} (hst : Represents st t)
    (htainted : st.tainted=false) (hprepared : Prepared tables d (.applyFDState update))
    (hfollowed : Followed d st update)
    (habsolute : ∀ path, t.paths (update.targetPID,.cwd)=some path → hasPrefix path "/"=true) :
    (t.applyFDState tables update).paths (update.targetPID,.cwd)=
      cwdAfterEvent id st (t.paths (update.targetPID,.cwd)) update := by
  have hrecord := cwd_recordFDState_eq hst htainted hfollowed (hprepared.2 update rfl) habsolute
  unfold DescriptorTable.applyFDState
  split_ifs with hskip hname
  · rw [←hst.tainted,htainted] at hskip
    have hnot := hskip.resolve_left Bool.noConfusion
    rw [cwdAfterEvent_of_not_applied _ hprepared.1 hnot]
  · rw [cwd_updateCloseRangeState]
    exact hrecord
  · exact hrecord

/-- Every operation keeps the directories to the reference. -/
theorem Tracks.perform (h : Tracks t cwds) (hst : Represents st t) (htainted : st.tainted=false)
    {op : FDStateOp} (hprepared : Prepared tables d op)
    (hfollowed : ∀ update, op=.applyFDState update → Followed d st update)
    (hkept : op≠.taintHistory) : Tracks (t.perform tables op) (cwdsAfter id st cwds op) := by
  cases op with
  | applyFDState update =>
    have hevent := cwd_applyFDState hst htainted hprepared (hfollowed update rfl)
      (h.absolute update.targetPID)
    have hcwd : ∀ pid, (t.perform tables (.applyFDState update)).paths (pid,.cwd)=
        if pid=update.targetPID then cwdAfterEvent id st (t.paths (pid,.cwd)) update
        else t.paths (pid,.cwd) := by
      intro pid
      split_ifs with hpid
      · subst hpid
        exact hevent
      · have hframe : (t.perform tables (.applyFDState update)).entry (pid,.cwd)=
            t.entry (pid,.cwd) := entry_perform_of_ne fun hsame => hpid hsame.symm
        exact congrArg FDEntry.path hframe
    constructor
    · intro pid
      rw [hcwd pid,h.same pid]
      rfl
    · intro pid path hpath
      rw [hcwd pid] at hpath
      split_ifs at hpath with hpid
      · subst hpid
        exact cwdAfterEvent_absolute (hfollowed update rfl) (h.absolute _) hpath
      · exact h.absolute pid path hpath
  | applyFDOffsets view name statePID =>
    have hsame : (t.applyFDOffsets view name statePID).paths=t.paths := by
      unfold DescriptorTable.applyFDOffsets
      split_ifs <;> rfl
    exact ⟨fun pid => (congrFun hsame _).trans (h.same pid),
      fun pid path hpath => h.absolute pid path ((congrFun hsame _).symm.trans hpath)⟩
  | cleanupClosedFD view name statePID =>
    have hsame : ∀ pid, (t.cleanupClosedFD tables view name statePID).paths (pid,.cwd)=
        t.paths (pid,.cwd) := by
      intro pid
      unfold DescriptorTable.cleanupClosedFD
      split_ifs
      · rfl
      all_goals simp [writeAll,forget]
    exact ⟨fun pid => (hsame pid).trans (h.same pid),
      fun pid path hpath => h.absolute pid path ((hsame pid).symm.trans hpath)⟩
  | inheritProcessState parentPID childPID =>
    have hinherit : ∀ pid, (t.inheritProcessState parentPID childPID).paths (pid,.cwd)=
        if 0 < parentPID ∧ 0 < childPID ∧ pid=childPID then
          (t.paths (parentPID,.cwd)).or (t.paths (pid,.cwd))
        else t.paths (pid,.cwd) := by
      intro pid
      unfold DescriptorTable.inheritProcessState inheritFrom
      by_cases hguard : parentPID ≤ 0 ∨ childPID ≤ 0 ∨ parentPID=childPID
      · rw [if_pos hguard]
        split_ifs with hfork
        · obtain ⟨hparent,hchild,rfl⟩ := hfork
          obtain rfl : parentPID=pid := by omega
          exact Option.or_self.symm
        · rfl
      · rw [if_neg hguard]
        by_cases hchild : pid=childPID
        · rw [if_pos ⟨by omega,by omega,hchild⟩]
          exact if_pos hchild
        · rw [if_neg fun hfork => hchild hfork.2.2]
          exact if_neg hchild
    constructor
    · intro pid
      change (t.inheritProcessState parentPID childPID).paths (pid,.cwd)=_
      rw [hinherit,h.same,h.same]
      rfl
    · intro pid path hpath
      have hpath := (hinherit pid).symm.trans hpath
      split_ifs at hpath
      · rcases Option.or_eq_some_iff.mp hpath with hparent | ⟨-,hown⟩
        · exact h.absolute parentPID path hparent
        · exact h.absolute pid path hown
      · exact h.absolute pid path hpath
  | cleanupProcess other =>
    have hcleanup : ∀ pid, (t.cleanupProcess other).paths (pid,.cwd)=
        if pid=other then none else t.paths (pid,.cwd) := by
      intro pid
      simp only [DescriptorTable.cleanupProcess,dropWhere_const]
      by_cases hpid : pid=other <;> simp [hpid]
    constructor
    · intro pid
      change (t.cleanupProcess other).paths (pid,.cwd)=_
      rw [hcleanup,h.same]
      rfl
    · intro pid path hpath
      have hpath := (hcleanup pid).symm.trans hpath
      split_ifs at hpath
      exact h.absolute pid path hpath
  | closeOnExecProcess other =>
    have hexec : ∀ pid, (t.closeOnExecProcess other).paths (pid,.cwd)=t.paths (pid,.cwd) := by
      intro pid
      unfold DescriptorTable.closeOnExecProcess
      split_ifs
      · rfl
      · simp only [dropWhere_const,DescriptorTable.closedByExec]
        simp
    exact ⟨fun pid => (hexec pid).trans (h.same pid),
      fun pid path hpath => h.absolute pid path ((hexec pid).symm.trans hpath)⟩
  | taintHistory => exact absurd rfl hkept

/-- Every run keeps the directories to the reference, while no history is lost. -/
theorem Tracks.run (hst : Represents st t) {ops : List (FDStateOp×LoopOrders)}
    (hcovered : CoveredRun tables st ops) (hprepared : ∀ op∈ops, Prepared tables d op.1)
    (hfollowed : FollowedRun tables d st ops) (h : st.tainted=false → Tracks t cwds)
    (htainted : (st.run tables ops).tainted=false) :
    Tracks (t.run tables (ops.map Prod.fst)) (referenceCwds id tables st cwds ops) := by
  induction ops generalizing st t cwds with
  | nil => exact h htainted
  | cons op ops ih =>
    refine ih (hst.perform op.1 hcovered.1) hcovered.2
      (fun other hother => hprepared other (List.mem_cons_of_mem op hother)) hfollowed.2 ?_ htainted
    intro hafter
    have hbefore : st.tainted=false ∧ op.1≠.taintHistory := by
      rw [Bool.eq_false_iff,Ne,perform_tainted,not_or] at hafter
      exact ⟨Bool.eq_false_iff.mpr hafter.1,hafter.2⟩
    exact (h hbefore.1).perform hst hbefore.1 (hprepared op List.mem_cons_self)
      (fun update hop => hfollowed.1 update hop hbefore.1) hbefore.2

/-- The tracked working directory is never wrong while changes of directory can be followed: from
any store whose directories are absolute, through every run whose events are followed faithfully, a
directory the store returns is absolute and the one of the reference, which keeps the last known
directory where a change cannot be read. Cleaned paths are clean: cleaning again changes nothing,
and no component is empty, a dot or two dots. -/
theorem tracked_cwd_follows_reference (tables : SyscallTables) (d : Decoder) (st : FDStateStore)
    (t : DescriptorTable) (hst : Represents st t)
    (habsolute : ∀ pid path, st.cwd pid=some path → hasPrefix path "/"=true)
    (ops : List (FDStateOp×LoopOrders)) (hcovered : CoveredRun tables st ops)
    (hprepared : ∀ op∈ops, Prepared tables d op.1) (hfollowed : FollowedRun tables d st ops) :
    (∀ pid path, (st.run tables ops).cwd pid=some path →
      hasPrefix path "/"=true ∧ referenceCwds id tables st st.cwd ops pid=some path) ∧
    (∀ path, cleanAbsoluteFDStatePath (cleanAbsoluteFDStatePath path)=
      cleanAbsoluteFDStatePath path) ∧
    (∀ path, ∃ names, cleanAbsoluteFDStatePath path="/" ++ String.intercalate "/" names ∧
      ∀ name∈names, name≠"" ∧ name≠"." ∧ name≠".." ∧ '/'∉name.toList) := by
  refine ⟨?_,cleanAbsoluteFDStatePath_idempotent,?_⟩
  · intro pid path hpath
    unfold FDStateStore.cwd at hpath
    split_ifs at hpath with htainted
    have hstart : st.tainted=false → Tracks t st.cwd := by
      intro hclean
      have hcwd : ∀ pid, t.paths (pid,.cwd)=st.cwd pid := by
        intro pid
        unfold FDStateStore.cwd
        rw [hclean]
        exact (hst.paths.lookup (pid,.cwd)).symm
      exact ⟨hcwd,fun pid path hpath => habsolute pid path ((hcwd pid).symm.trans hpath)⟩
    have htracks := Tracks.run hst hcovered hprepared hfollowed hstart (by simpa using htainted)
    have hafter := ((hst.run hcovered).paths.lookup (pid,.cwd)).symm.trans hpath
    exact ⟨htracks.absolute pid path hafter,(htracks.same pid).symm.trans hafter⟩
  · intro path
    refine ⟨directory path,cleanAbsoluteFDStatePath_eq path,?_⟩
    intro name hname
    have hentries := entries_directory path
    have hrole := hentries.plain name hname
    unfold partRole at hrole
    split_ifs at hrole with hstay hup
    obtain ⟨hempty,hdot⟩ := not_or.mp hstay
    exact ⟨hempty,hdot,hup,hentries.slash name hname⟩

end Runs

/-- Seeded directories are absolute. -/
theorem seeded_absolute (seeds : List (ℤ×String)) (pid : ℤ) (path : String)
    (h : (newFDStateStoreFromSeed seeds).cwd pid=some path) : hasPrefix path "/"=true := by
  have hseeds : ∀ f : FDKey → Option String,
      (∀ key path, f key=some path → hasPrefix path "/"=true) → ∀ key path,
      seeds.foldl (fun paths seed =>
        writeAll (Prod.mk seed.1) paths (newCwdFDStateSeed seed.1 seed.2)) f key=some path →
      hasPrefix path "/"=true := by
    clear h
    induction seeds with
    | nil => exact fun f hf => hf
    | cons seed seeds ih =>
      intro f hf
      apply ih
      intro key path hpath
      unfold newCwdFDStateSeed at hpath
      dsimp only at hpath
      split_ifs at hpath
      · exact hf key path hpath
      · by_cases hkey : key=(seed.1,.cwd)
        · subst hkey
          simp only [writeAll,List.foldl_cons,List.foldl_nil,Function.update_self,
            Option.some.injEq] at hpath
          rw [←hpath,cleanAbsoluteFDStatePath_eq]
          exact hasPrefix_render _
        · simp only [writeAll,List.foldl_cons,List.foldl_nil,Function.update_of_ne hkey] at hpath
          exact hf key path hpath
  have hmirror := (represents_newFDStateStoreFromSeed seeds).paths.lookup (pid,.cwd)
  exact hseeds _ (fun _ _ hnone => absurd hnone.symm (Option.some_ne_none _)) (pid,.cwd) path
    (hmirror.symm.trans h)

section Samples

/-- Syscall table of the samples. -/
def chdirTables : SyscallTables := ⟨fun _ => "chdir",fun _ => false,fun _ => false⟩

/-- Process seven changes its directory, with what was captured of the path. -/
def changedDirectory (captured : List PayloadSection) (text : String) : FDStateUpdate where
  source := {
    view := ({eventType := .exit, pid := 7, tid := 7, sysID := 80} :
      TraceEventEnvelope).syscallView
    payloadSections := captured}
  name := .chdir
  pathText := text
  targetPID := 7

/-- The captured path `a/../b`. -/
def capturedRelative : List PayloadSection :=
  [{kind := .string, direction := .input, argIndex := 0, userPtr := 4096, userLen := 7,
    copiedLen := 7, probeRet := 0, data := [97,47,46,46,47,98,0]}]

theorem covered_changedDirectory (captured : List PayloadSection) (text : String)
    (st : FDStateStore) :
    CoveredRun chdirTables st [(.applyFDState (changedDirectory captured text),{})] :=
  ⟨fun hname => absurd hname (by simp [changedDirectory]),trivial⟩

theorem named_changedDirectory (captured : List PayloadSection) (text : String) :
    Named chdirTables (.applyFDState (changedDirectory captured text)) := by
  change SyscallName.chdir=syscallName "chdir"
  decide

/-- A relative path is followed from the seeded directory. -/
theorem tracked_cwd_follows_relative :
    ((newFDStateStoreFromSeed [(7,"/old")]).run chdirTables
        [(.applyFDState (changedDirectory capturedRelative "\"a/../b\""),{})]).cwd 7=
      some "/old/b" ∧
    referenceCwds id chdirTables (newFDStateStoreFromSeed [(7,"/old")])
        (newFDStateStoreFromSeed [(7,"/old")]).cwd
        [(.applyFDState (changedDirectory capturedRelative "\"a/../b\""),{})] 7=
      some "/old/b" := by
  have hcwd : ((newFDStateStoreFromSeed [(7,"/old")]).run chdirTables
      [(.applyFDState (changedDirectory capturedRelative "\"a/../b\""),{})]).cwd 7=
        some "/old/b" := by decide
  have hprepared : Prepared chdirTables {}
      (.applyFDState (changedDirectory capturedRelative "\"a/../b\"")) := by
    refine ⟨named_changedDirectory _ _,?_⟩
    rintro update hupdate -
    rw [←FDStateOp.applyFDState.inj hupdate]
    exact Or.inl (by decide)
  have hfollowed : Followed {} (newFDStateStoreFromSeed [(7,"/old")])
      (changedDirectory capturedRelative "\"a/../b\"") := by
    refine ⟨?_,?_,?_,?_⟩
    · intro path hpath
      exact absurd hpath.symm (Option.some_ne_none path)
    · intro _ _ _ captured hcaptured _
      have hmem : captured∈capturedRelative := List.mem_of_find?_eq_some hcaptured
      rw [List.mem_singleton.mp hmem]
      refine ⟨fun _ => ⟨by decide,by decide,?_⟩,fun hzero => absurd hzero (by decide)⟩
      intro b hb
      have hbytes : b∈([97,47,46,46,47,98] : List UInt8) := hb
      simp only [List.mem_cons,List.not_mem_nil,or_false] at hbytes
      rcases hbytes with rfl | rfl | rfl | rfl | rfl | rfl <;> exact ⟨by decide,by decide,by decide,
        by decide⟩
    · exact fun _ _ _ raw _ _ => Or.inl (by decide)
    · exact fun hname => absurd hname (by decide)
  have htracked := (tracked_cwd_follows_reference chdirTables {} _ _
    (represents_newFDStateStoreFromSeed [(7,"/old")]) (seeded_absolute _)
    [(.applyFDState (changedDirectory capturedRelative "\"a/../b\""),{})]
    (covered_changedDirectory _ _ _) (by simpa using hprepared)
    ⟨fun update hop _ => FDStateOp.applyFDState.inj hop ▸ hfollowed,trivial⟩).1 7 "/old/b" hcwd
  exact ⟨hcwd,htracked.2⟩

/-- A change of directory whose path was not captured leaves the last known directory. -/
theorem uncaptured_chdir_keeps_cwd :
    ¬∀ (tables : SyscallTables) (d : Decoder) (seeds : List (ℤ×String))
      (ops : List (FDStateOp×LoopOrders)) (pid : ℤ) (path : String),
      CoveredRun tables (newFDStateStoreFromSeed seeds) ops →
      (∀ op∈ops, Prepared tables d op.1) →
      ((newFDStateStoreFromSeed seeds).run tables ops).cwd pid=some path →
      referenceCwds (fun _ => none) tables (newFDStateStoreFromSeed seeds)
        (newFDStateStoreFromSeed seeds).cwd ops pid=some path := by
  intro h
  have hprepared : Prepared chdirTables {} (.applyFDState (changedDirectory [] "")) := by
    refine ⟨named_changedDirectory _ _,?_⟩
    rintro update hupdate -
    rw [←FDStateOp.applyFDState.inj hupdate]
    exact Or.inr ⟨rfl,rfl⟩
  have hreference := h chdirTables {} [(7,"/old")] [(.applyFDState (changedDirectory [] ""),{})] 7
    "/old" (covered_changedDirectory _ _ _) (by simpa using hprepared) (by decide)
  exact absurd hreference (by decide)

end Samples

end StraceGo.FDStateCwd

import StraceGo.FDState
import StraceGo.JsonSyscallLines
import StraceGo.PathSelection

/-!
# Descriptors with their paths

A descriptor is shown with the path that the event carries for it, or with the
path that is recorded for its process. Anonymous descriptors and sockets have
texts of their own; of any other the device is shown, if it has one and the
options ask for it. Two readers that agree on the path of a descriptor show it
alike exactly when they agree on its device.
-/

namespace StraceGo.DescriptorPaths

open FiniteMaps GoText FDStateEvents FDState PathSelection Utf8Text JsonSyscallEncoder
open JsonSyscallAgreement JsonSyscallLines

section Options

/-- What is shown of descriptors. -/
structure HandlerOptions where
  /-- Anything is shown. -/
  showPaths : Bool := false
  /-- Level of detail. -/
  showPathsMode : ℤ := 0
  /-- Paths. -/
  showFDPath : Bool := false
  /-- Devices. -/
  showFDDevice : Bool := false
  /-- Event counters. -/
  showFDEventFD : Bool := false
  /-- Processes. -/
  showFDPIDFD : Bool := false
  /-- Signal masks. -/
  showFDSignalFD : Bool := false
  /-- Sockets. -/
  showFDSocket : Bool := false
  deriving DecidableEq

/-- Level of all details. -/
def decodeFDModeAll : ℤ := 2

/-- Paths and snapshots that an event carries, with a working directory. -/
structure EventFDView extends EventFDStateView where
  /-- Working directory, empty without one. -/
  cwd : String := ""

namespace EventFDView

variable (view : EventFDView)

/-- Path of a descriptor. -/
def path (fd : Int32) : Option String := view.paths.lookup fd

/-- Snapshot of a descriptor. -/
def observation (fd : Int32) : Option FDStateObservation := view.states.lookup fd

/-- Whether the event carries nothing. -/
def isEmpty : Bool := decide (view.paths=∅) && decide (view.states=∅) && view.cwd==""

end EventFDView

/-- What the text of a descriptor is made from. -/
structure FDReaders where
  /-- Options, if there are any. -/
  opts : Option HandlerOptions
  /-- Process of the records. -/
  targetPid : ℤ
  /-- Process of the event. -/
  pid : ℤ
  /-- What the event carries. -/
  eventFDView : Option EventFDView
  /-- The records, if there are any. -/
  fdStateView : Option FDStateStore

end Options

section Anonymous

/-- Rest of a text behind its start. -/
def cutPrefix (s start : String) : Option String :=
  if hasPrefix s start then some (trimPrefix s start) else none

/-- Path of event counters. -/
def eventFDPath : String := "anon_inode:[eventfd]"

/-- Path of process descriptors. -/
def pidFDPath : String := "anon_inode:[pidfd]"

/-- Path of signal descriptors. -/
def signalFDPath : String := "anon_inode:[signalfd]"

/-- Value of a counter. -/
def parseEventFDCount (field : String) : Option ℕ :=
  (cutPrefix field "eventfd-count=").bind (parseLiteral 64)

/-- Identity of a counter. -/
def parseEventFDID (field : String) : Option ℤ :=
  ((cutPrefix field "eventfd-id=").bind (parseInt 32)).filter fun id => decide (0 ≤ id)

/-- Whether reads of a counter take one unit. -/
def parseEventFDSemaphore (field : String) : Option String :=
  (cutPrefix field "eventfd-semaphore=").filter fun value => value=="0" || value=="1"

/-- Path and details of an event counter. -/
def decodeEventFDTarget (target : String) : Option (String×String) :=
  if target=eventFDPath then some (eventFDPath,"")
  else
    match cutPrefix target (eventFDPath ++ ",") with
    | none => none
    | some fields =>
      match split fields ',' with
      | [count,id,semaphore] =>
        match parseEventFDCount count,parseEventFDID id,parseEventFDSemaphore semaphore with
        | some count,some id,some semaphore =>
          some (eventFDPath,"\x7beventfd-count=" ++ formatEventFDStateCount (UInt64.ofNat count) ++
            ", eventfd-id=" ++ toString id ++ ", eventfd-semaphore=" ++ semaphore ++ "\x7d")
        | _,_,_ => some (eventFDPath,"")
      | _ => some (eventFDPath,"")

/-- Path and details of a process descriptor. -/
def decodePIDFDTarget (target : String) : Option (String×String) :=
  if target=pidFDPath then some (pidFDPath,"")
  else
    match cutPrefix target (pidFDPath ++ ",pid=") with
    | none => none
    | some value =>
      match (parseInt 32 value).filter fun pid => decide (0 < pid) with
      | some pid => some (pidFDPath,"pid:" ++ toString pid)
      | none => some (pidFDPath,"")

/-- Path and details of a signal descriptor. -/
def decodeSignalFDTarget (target : String) : Option (String×String) :=
  if hasPrefix target "signalfd:["=false then none
  else if hasSuffix target "]"=false then some (signalFDPath,"")
  else
    let mask := trimSuffix (trimPrefix target "signalfd:[") "]"
    if mask.toList.any fun c => ['[',']','<','>',Char.ofNat 0].contains c then
      some (signalFDPath,"")
    else some (signalFDPath,target)

end Anonymous

section Targets

/-- Number of a descriptor. -/
def fdText (fd : Int32) : String := toString fd.toInt

/-- Text of a descriptor with something behind its number. -/
def fdWith (fd : Int32) (shown : String) : String := fdText fd ++ "<" ++ shown ++ ">"

variable (opts : HandlerOptions) (ctx : FDReaders) (fd : Int32)

/-- Path of a descriptor, or its details if these are shown. -/
def formatAnonymous (showDetails : Bool) (decoded : String×String) : String :=
  if showDetails=true ∧ decoded.2≠"" then fdWith fd decoded.2
  else if opts.showFDPath then fdWith fd decoded.1
  else fdText fd

/-- Text of a socket. -/
def formatSocketPath (target : String) : String :=
  let inode := trimSuffix (trimPrefix target "socket:[") "]"
  let info :=
    if contains target "|"=false then
      match ctx.fdStateView.bind fun st => st.path ctx.targetPid fd with
      | some tracked => tracked
      | none => target
    else target
  let parts := split info '|'
  let first := parts.headD ""
  let several := decide (1 < parts.length)
  let domainInfo := if several then parts.getD 1 "" else info
  let named := several && hasPrefix first "socket:["
  let basePath := if named then first else target
  let inode := if named then trimSuffix (trimPrefix first "socket:[") "]" else inode
  if (decide (opts.showPathsMode=decodeFDModeAll) || opts.showFDSocket)=false then basePath
  else if hasPrefix domainInfo "AF_NETLINK" then
    if parts.getD 2 ""≠"" then "NETLINK:[" ++ parts.getD 2 "" ++ "]"
    else "NETLINK:[" ++ inode ++ "]"
  else if hasPrefix domainInfo "AF_INET" then "TCP:[" ++ inode ++ "]"
  else if hasPrefix domainInfo "AF_UNIX" then "UNIX-STREAM:[" ++ inode ++ "]"
  else if contains info ":[" then info
  else target

/-- A device: whether it is one of characters, with its two numbers. -/
structure Device where
  /-- Characters, else blocks. -/
  characters : Bool
  /-- First number. -/
  major : UInt32
  /-- Second number. -/
  minor : UInt32
  deriving DecidableEq

/-- Device of a snapshot. -/
def deviceOf (observation : FDStateObservation) : Option Device :=
  let kind := observation.mode &&& 0o170000
  let major := ((observation.rdev >>> 20) &&& 0xfff).toUInt32
  let minor := (observation.rdev &&& 0xfffff).toUInt32
  if kind=0o020000 then some ⟨true,major,minor⟩
  else if kind=0o060000 then some ⟨false,major,minor⟩
  else none

/-- Text of a path with its device, empty without one. -/
def formatDevicePath (target : String) (observation : FDStateObservation) : String :=
  match deviceOf observation with
  | none => ""
  | some device => target ++ (if device.characters then "<char " else "<block ") ++
    toString device.major.toNat ++ ":" ++ toString device.minor.toNat ++ ">"

/-- Snapshot that is recorded for a descriptor. -/
def recordedFDState : Option FDStateObservation :=
  ctx.fdStateView.bind fun st => (st.observation ctx.targetPid fd).or (st.observation ctx.pid fd)

/-- Snapshot of a descriptor; what the event carries comes first. -/
def eventFDState : Option FDStateObservation :=
  (ctx.eventFDView.bind fun view => view.observation fd).or (recordedFDState ctx fd)

/-- Text of a descriptor with a path. -/
def formatFDTarget (target : String) : String :=
  match decodeEventFDTarget target with
  | some decoded => formatAnonymous opts fd opts.showFDEventFD decoded
  | none =>
    match decodePIDFDTarget target with
    | some decoded => formatAnonymous opts fd opts.showFDPIDFD decoded
    | none =>
      match decodeSignalFDTarget target with
      | some decoded => formatAnonymous opts fd opts.showFDSignalFD decoded
      | none =>
        if hasPrefix target "socket:[" then
          if opts.showFDSocket || opts.showFDPath then
            fdWith fd (formatSocketPath opts ctx fd target)
          else fdText fd
        else
          let detailed := if opts.showFDDevice then
              ((eventFDState ctx fd).map (formatDevicePath target)).getD ""
            else ""
          if detailed≠"" then fdWith fd detailed
          else if opts.showFDPath then fdWith fd target
          else fdText fd

/-- Path that is recorded for a descriptor, without quotes. -/
def lookupTrackedFDPath : Option String :=
  ctx.fdStateView.bind fun st =>
    ((st.path ctx.targetPid fd).or (st.path ctx.pid fd)).map unquotePath

/-- Text of a descriptor. -/
def formatFdWithPath : String :=
  match ctx.opts with
  | none => fdText fd
  | some opts =>
    if opts.showPaths=false then fdText fd
    else
      match ctx.eventFDView.bind fun view => view.path fd with
      | some target => formatFDTarget opts ctx fd target
      | none =>
        match lookupTrackedFDPath ctx fd with
        | some target => formatFDTarget opts ctx fd target
        | none => fdText fd

end Targets

section Devices

/-- Whether the device of a descriptor with a path is shown. -/
def ShowsDevice (opts : HandlerOptions) (target : String) : Prop :=
  opts.showFDDevice=true ∧ decodeEventFDTarget target=none ∧ decodePIDFDTarget target=none ∧
    decodeSignalFDTarget target=none ∧ hasPrefix target "socket:["=false

/-- Text of a device. -/
def deviceText (device : Device) : String :=
  (if device.characters then "<char " else "<block ") ++ toString device.major.toNat ++ ":" ++
    toString device.minor.toNat ++ ">"

/-- Text of a descriptor whose device may be shown. -/
def plainTarget (opts : HandlerOptions) (fd : Int32) (target : String) : Option Device → String
  | none => if opts.showFDPath then fdWith fd target else fdText fd
  | some device => fdWith fd (target ++ deviceText device)

/-- A number in front of a colon can be told. -/
theorem decimal_append_inj {m n : ℕ} {s t : Bytes}
    (h : decimal m ++ 58::s=decimal n ++ 58::t) : m=n ∧ s=t := by
  have hdigits : ∀ (n : ℕ) (rest : Bytes),
      (decimal n ++ 58::rest).takeWhile JsonText.isDigit=decimal n := by
    intro n rest
    rw [List.takeWhile_append_of_pos (decimal_digits n).1]
    exact List.append_nil _
  have hsame : decimal m=decimal n := by
    rw [←hdigits m s,←hdigits n t,h]
  have hvalue := congrArg JsonText.digitsValue hsame
  rw [digitsValue_decimal,digitsValue_decimal] at hvalue
  rw [hsame] at h
  exact ⟨hvalue,(List.cons.inj (List.append_cancel_left h)).2⟩

/-- The text of a device tells the device. -/
theorem deviceText_injective {a b : Device} {s : Bytes}
    (h : ascii (deviceText a) ++ s=ascii (deviceText b) ++ s) : a=b := by
  have h := List.append_cancel_right h
  obtain ⟨acharacters,amajor,aminor⟩ := a
  obtain ⟨bcharacters,bmajor,bminor⟩ := b
  have hkind : acharacters=bcharacters := by
    have hsecond := congrArg (fun text => text[1]?) h
    cases acharacters <;> cases bcharacters <;>
      first | rfl | (simp [deviceText,ascii] at hsecond)
  subst hkind
  unfold deviceText at h
  simp only [ascii_append,List.append_assoc] at h
  have hnumbers : decimal amajor.toNat ++ 58::(decimal aminor.toNat ++ [62])=
      decimal bmajor.toNat ++ 58::(decimal bminor.toNat ++ [62]) := List.append_cancel_left h
  obtain ⟨hmajor,hrest⟩ := decimal_append_inj hnumbers
  have hminor := congrArg JsonText.digitsValue (List.append_cancel_right hrest)
  rw [digitsValue_decimal,digitsValue_decimal] at hminor
  rw [UInt32.toNat_inj.mp hmajor,UInt32.toNat_inj.mp hminor]

theorem length_deviceText_pos (device : Device) : 0 < (ascii (deviceText device)).length := by
  unfold deviceText
  rw [ascii_append,List.length_append]
  exact Nat.lt_of_lt_of_le Nat.one_pos (Nat.le_add_left _ _)

/-- The text of a descriptor tells the device that is shown. -/
theorem plainTarget_injective {opts : HandlerOptions} {fd : Int32} {target : String}
    {a b : Option Device}
    (h : ascii (plainTarget opts fd target a)=ascii (plainTarget opts fd target b)) : a=b := by
  have hlonger : ∀ (device : Device) (shown : Bytes),
      shown=ascii (fdText fd) ∨ shown=ascii (fdWith fd target) →
      ascii (fdWith fd (target ++ deviceText device))≠shown := by
    intro device shown hshown hsame
    have hdevice := length_deviceText_pos device
    have hlength := congrArg List.length hsame
    rcases hshown with rfl | rfl
    · unfold fdWith at hlength
      simp only [ascii_append,List.length_append] at hlength
      omega
    · unfold fdWith at hlength
      simp only [ascii_append,List.length_append] at hlength
      omega
  have hplain : ascii (plainTarget opts fd target none)=ascii (fdText fd) ∨
      ascii (plainTarget opts fd target none)=ascii (fdWith fd target) := by
    unfold plainTarget
    cases opts.showFDPath with
    | true => exact Or.inr rfl
    | false => exact Or.inl rfl
  cases a with
  | none =>
    cases b with
    | none => rfl
    | some b => exact absurd h.symm (hlonger b _ hplain)
  | some a =>
    cases b with
    | none => exact absurd h (hlonger a _ hplain)
    | some b =>
      unfold plainTarget fdWith at h
      simp only [ascii_append,List.append_assoc] at h
      have hrest := List.append_cancel_left (List.append_cancel_left (List.append_cancel_left h))
      rw [deviceText_injective hrest]

/-- The text of a plain descriptor with a path is that of its device, if this is shown. -/
theorem formatFDTarget_plain {opts : HandlerOptions} {target : String}
    (h : ShowsDevice opts target) (ctx : FDReaders) (fd : Int32) :
    formatFDTarget opts ctx fd target=
      plainTarget opts fd target ((eventFDState ctx fd).bind deviceOf) := by
  obtain ⟨hshow,hevent,hpid,hsignal,hsocket⟩ := h
  unfold formatFDTarget plainTarget
  rw [hevent,hpid,hsignal,hshow]
  dsimp only
  rw [if_neg (by rw [hsocket]; exact Bool.false_ne_true),if_pos rfl]
  cases eventFDState ctx fd with
  | none => rfl
  | some observation =>
    rw [Option.map_some,Option.getD_some,Option.bind_some]
    unfold formatDevicePath
    cases deviceOf observation with
    | none => rfl
    | some device =>
      have hnonempty : target ++ (if device.characters=true then "<char " else "<block ") ++
          toString device.major.toNat ++ ":" ++ toString device.minor.toNat ++ ">"≠"" := by
        intro hempty
        have hlength := congrArg (fun text : String => text.toList.length) hempty
        simp at hlength
      dsimp only
      rw [if_pos hnonempty]
      unfold deviceText
      simp only [String.append_assoc]

/-- Any other descriptor with a path is shown without its device. -/
theorem formatFDTarget_of_not {opts : HandlerOptions} {target : String}
    (h : ¬ShowsDevice opts target) {ctx ctx' : FDReaders}
    (hpid : ctx.targetPid=ctx'.targetPid) (hstore : ctx.fdStateView=ctx'.fdStateView)
    (fd : Int32) : formatFDTarget opts ctx fd target=formatFDTarget opts ctx' fd target := by
  have hsocket : formatSocketPath opts ctx fd target=formatSocketPath opts ctx' fd target := by
    unfold formatSocketPath
    rw [hpid,hstore]
  unfold formatFDTarget
  cases hevent : decodeEventFDTarget target with
  | some decoded => rfl
  | none =>
    cases hprocess : decodePIDFDTarget target with
    | some decoded => rfl
    | none =>
      cases hsignal : decodeSignalFDTarget target with
      | some decoded => rfl
      | none =>
        dsimp only
        by_cases hsocketPath : hasPrefix target "socket:["=true
        · rw [if_pos hsocketPath,if_pos hsocketPath,hsocket]
        · rw [if_neg hsocketPath,if_neg hsocketPath]
          have hhidden : opts.showFDDevice=false := by
            rw [Bool.not_eq_true] at hsocketPath
            by_contra hshown
            rw [Bool.not_eq_false] at hshown
            exact h ⟨hshown,hevent,hprocess,hsignal,hsocketPath⟩
          rw [hhidden,if_neg Bool.false_ne_true,if_neg Bool.false_ne_true]

/-- Readers with the same records show a descriptor with a path alike exactly if they agree on
its device, where this is shown. -/
theorem formatFDTarget_eq_iff {opts : HandlerOptions} {target : String} {ctx ctx' : FDReaders}
    (hpid : ctx.targetPid=ctx'.targetPid) (hstore : ctx.fdStateView=ctx'.fdStateView)
    (fd : Int32) :
    ascii (formatFDTarget opts ctx fd target)=ascii (formatFDTarget opts ctx' fd target) ↔
      (ShowsDevice opts target →
        (eventFDState ctx fd).bind deviceOf=(eventFDState ctx' fd).bind deviceOf) := by
  by_cases hshows : ShowsDevice opts target
  · rw [formatFDTarget_plain hshows,formatFDTarget_plain hshows]
    constructor
    · intro hsame _
      exact plainTarget_injective hsame
    · intro hsame
      rw [hsame hshows]
  · rw [formatFDTarget_of_not hshows hpid hstore]
    exact ⟨fun _ hshown => absurd hshown hshows,fun _ => rfl⟩

end Devices

end StraceGo.DescriptorPaths

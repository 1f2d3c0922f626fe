import StraceGo.BpfRuntime
import StraceGo.GoText
import Mathlib.Data.Finset.Image

/-!
# Syscall selectors of the command line

A selector is a comma list of names, class names, numbers, patterns, optional
and personality terms, behind an optional exclamation mark. Every term adds its
own names and patterns to the selector and reads nothing of it, so a list
selects the union of what its terms select on their own.
-/

namespace StraceGo.SyscallSelection

open GoText BpfRuntime

/-- Name that stands for a number outside the syscall table. -/
def unknownSyscallName (sysID : UInt32) : String := "syscall_0x" ++ hex sysID.toNat

/-- Whether a name stands for a number outside the syscall table. -/
def isUnknownSyscallName (name : String) : Bool := hasPrefix name "syscall_0x"

/-- Whether a name consists of lower case letters, digits and underscores. -/
def isIdentifier (name : String) : Bool :=
  name.toList.all fun c => c.isLower || c.isDigit || c == '_'

/-- What the syscall table says about a syscall. -/
structure Syscall where
  /-- Name, empty for no syscall. -/
  name : String
  /-- Classes of the syscall, between vertical bars. -/
  flags : String := ""
  deriving DecidableEq

/-- The generated syscall table of an architecture, in any order of iteration. -/
structure SyscallTable where
  /-- Numbers with their syscalls. -/
  entries : List (UInt32×Syscall)
  /-- Every number stands once. -/
  nodup : (entries.map Prod.fst).Nodup
  /-- Names are identifiers. -/
  identifiers : ∀ entry∈entries, isIdentifier entry.2.name=true
  /-- No name looks like that of an unknown number. -/
  known : ∀ entry∈entries, isUnknownSyscallName entry.2.name=false

/-- Compiled pattern: the names it matches. -/
abbrev Regexp : Type := String → Bool

/-- What a build has: its architecture, its syscall table and the pattern compiler. -/
structure Build where
  /-- Architecture. -/
  arch : Arch
  /-- Syscall table. -/
  table : SyscallTable
  /-- Compiled pattern, or the compiler's message. -/
  compile : String → Except String Regexp

/-- Syscalls a selector picks. -/
structure SyscallSelector where
  /-- Selected names. -/
  names : Finset String := ∅
  /-- Selected patterns. -/
  regexps : List Regexp := []
  /-- Every syscall is selected. -/
  all : Bool := false
  /-- The selection is the complement. -/
  negated : Bool := false
  /-- Some term names a personality. -/
  personalityQualified : Bool := false

/-- One term of a selector. -/
structure SyscallSelectorTerm where
  /-- Text without the optional mark and the personality. -/
  expression : String
  /-- Text for messages. -/
  diagnostic : String
  /-- A term that selects nothing is ignored. -/
  optional : Bool
  /-- The term applies to the build's personality. -/
  active : Bool := true
  /-- The term names a personality. -/
  personalityQualified : Bool := false

section Terms

/-- Parts before and after the last separator. -/
def cutLast (separator : Char) : List Char → Option (List Char×List Char)
  | [] => none
  | c::cs =>
    match cutLast separator cs with
    | some (before,after) => some (c::before,after)
    | none => if c=separator then some ([],cs) else none

/-- Text without the bytes of one kind at its ends. -/
def trim (s : String) (c : Char) : String :=
  String.ofList ((s.toList.dropWhile (·==c)).reverse.dropWhile (·==c)).reverse

/-- Parts of a text between separators, without the empty ones. -/
def fields (s : String) (separator : Char) : List String := (split s separator).filter (· != "")

/-- Whether an architecture knows a personality. -/
def supportedSyscallPersonality : Arch → String → Bool
  | .amd64,personality => personality=="64" || personality=="32" || personality=="x32"
  | .arm64,personality => personality=="64" || personality=="32"

/-- Personality of the build. -/
def nativeSyscallPersonality : String := "64"

/-- Parse one term. -/
def parseSyscallSelectorTerm (arch : Arch) (token : String) :
    Except String SyscallSelectorTerm :=
  let optional := hasPrefix token "?"
  let expression := trimPrefix token "?"
  match cutLast '@' expression.toList with
  | none => .ok {expression := expression, diagnostic := token, optional := optional}
  | some (before,after) =>
    let personality := String.ofList after
    if supportedSyscallPersonality arch personality=false then
      .error ("incorrect personality designator '" ++ personality ++ "' in qualification '" ++
        token ++ "'")
    else
      .ok {
        expression := String.ofList before, diagnostic := token, optional := optional,
        active := personality==nativeSyscallPersonality, personalityQualified := true }

/-- Classes with the flag of their syscalls. -/
def traceClassFlags : List (String×String) :=
  [("file","TF"),("%file","TF"),("process","TP"),("%process","TP"),
    ("network","TN"),("%network","TN"),("%net","TN"),("signal","TS"),
    ("%signal","TS"),("ipc","TI"),("%ipc","TI"),("desc","TD"),
    ("%desc","TD"),("memory","TM"),("%memory","TM"),("creds","TC"),
    ("%creds","TC"),("stat","TST"),("%stat","TST"),("lstat","TLST"),
    ("%lstat","TLST"),("fstat","TFST"),("%fstat","TFST"),("%%stat","TSTA"),
    ("statfs","TSF"),("%statfs","TSF"),("fstatfs","TFSF"),("%fstatfs","TFSF"),
    ("%%statfs","TSFA"),("pure","TPU"),("%pure","TPU"),("clock","TCL"),
    ("%clock","TCL")]

/-- Flag of a class. -/
def traceClassFlag (token : String) : Option String := traceClassFlags.lookup token

/-- Names that a name brings along. -/
def traceAliases : String → List String
  | "access" => ["faccessat","faccessat2"]
  | "stat" => ["newfstatat"]
  | "lstat" => ["newfstatat"]
  | "chmod" => ["chmodat"]
  | "mkdir" => ["mkdirat"]
  | "rename" => ["renameat","renameat2"]
  | "chdir" => ["fchdir"]
  | "chown" => ["fchown","lchown","fchownat"]
  | _ => []

/-- Names with those that a name brings along. -/
def addTraceAliasesTo (names : Finset String) (name : String) : Finset String :=
  names∪(traceAliases name).toFinset

/-- Whether flags contain a flag. -/
def syscallHasFlag (flags target : String) : Bool := (split flags '|').contains target

namespace SyscallTable

variable (table : SyscallTable)

/-- Syscall of a number. -/
def lookup (sysID : UInt32) : Option Syscall := table.entries.lookup sysID

/-- Whether some syscall of the table has a name that a pattern matches. -/
def regexpMatchesSyscall (expression : Regexp) : Bool :=
  table.entries.any fun entry => expression entry.2.name

/-- Names with those of a class, if there is such a class. -/
def addSyscallClass (names : Finset String) (token : String) : Option (Finset String) :=
  match traceClassFlag token with
  | none => none
  | some classFlag =>
    some (names∪((table.entries.filter fun entry =>
      syscallHasFlag entry.2.flags classFlag).map fun entry => entry.2.name).toFinset)

/-- Names with that of a number, if the table has it. -/
def addSyscallNumber (names : Finset String) (token : String) : Option (Finset String) :=
  match parseDecimal 32 token with
  | none => none
  | some number =>
    match table.lookup number.toUInt32 with
    | none => none
    | some syscall => some (names∪{syscall.name})

/-- Names with a name of the table and those it brings along. -/
def addSyscallName (names : Finset String) (name : String) : Option (Finset String) :=
  if table.entries.any fun entry => entry.2.name==name then
    some (addTraceAliasesTo (names∪{name}) name)
  else none

/-- Syscall of a number; an unknown one has the name that stands for it. -/
def syscallMeta (sysID : UInt32) : Syscall :=
  match table.lookup sysID with
  | some syscall => syscall
  | none => {name := unknownSyscallName sysID}

end SyscallTable

end Terms

section Parsing

variable (build : Build)

namespace SyscallSelector

variable (selector : SyscallSelector)

/-- Selector with the names and patterns of an expression, if it selects anything. -/
def addExpression (token : String) : Except String (Option SyscallSelector) :=
  if hasPrefix token "/" then
    let pattern := trimPrefix token "/"
    if hasPrefix pattern "\x7b" then
      .error ("regcomp: " ++ pattern ++ ": invalid repetition operator")
    else
      match build.compile pattern with
      | .error message => .error ("regcomp: " ++ pattern ++ ": " ++ message)
      | .ok expression =>
        if build.table.regexpMatchesSyscall expression=false then .ok none
        else .ok (some {selector with regexps := selector.regexps ++ [expression]})
  else
    match build.table.addSyscallClass selector.names token with
    | some names => .ok (some {selector with names := names})
    | none =>
      match build.table.addSyscallNumber selector.names token with
      | some names => .ok (some {selector with names := names})
      | none =>
        match build.table.addSyscallName selector.names token with
        | some names => .ok (some {selector with names := names})
        | none => .ok none

/-- Refuse a term that selects nothing, unless it is optional. -/
def rejectInvalid (term : SyscallSelectorTerm) : Except String SyscallSelector :=
  if term.optional=false then .error ("invalid system call '" ++ term.diagnostic ++ "'")
  else .ok selector

/-- Selector with a term; `none` is a term only on its own. -/
def add (term : SyscallSelectorTerm) (tokenCount : ℕ) : Except String SyscallSelector :=
  let selector := {selector with
    personalityQualified := selector.personalityQualified || term.personalityQualified}
  if term.expression="all" ∨ term.expression="%all" then
    if term.active then .ok {selector with all := true} else .ok selector
  else if term.expression="none" then
    if tokenCount=1 then .ok selector else selector.rejectInvalid term
  else
    match addExpression build (if term.active then selector else {}) term.expression with
    | .error message => .error message
    | .ok none => selector.rejectInvalid term
    | .ok (some target) => .ok (if term.active then target else selector)

/-- Selector with the terms of a list of tokens. -/
def addTokens (tokenCount : ℕ) (tokens : List String) : Except String SyscallSelector :=
  tokens.foldlM (fun selector token => do
    let term ← parseSyscallSelectorTerm build.arch token
    selector.add build term tokenCount) selector

/-- Whether a selector picks a name, its negation aside. -/
def covers (name : String) : Bool :=
  selector.all || (decide (name∈selector.names) ||
    selector.regexps.any fun expression => expression name)

/-- Whether a selector picks all syscalls or none, and whether it says so without names. -/
def explicitAllOrNone : Bool×Bool :=
  if selector.all then (!selector.negated,true)
  else if selector.names≠∅ ∨ selector.regexps≠[] then (false,false)
  else (selector.negated,true)

end SyscallSelector

/-- Parse a selector. -/
def parseSyscallSelector (value : String) : Except String SyscallSelector :=
  let negated := hasPrefix value "!"
  let body := trimPrefix value "!"
  if trim body ',' = "" then .error ("invalid system call '" ++ value ++ "'")
  else
    let tokens := fields body ','
    SyscallSelector.addTokens build {negated := negated} tokens.length tokens

end Parsing

section Union

variable {build : Build}

namespace SyscallSelector

/-- Selector with what another one adds, its negation aside. -/
def join (selector added : SyscallSelector) : SyscallSelector where
  names := selector.names∪added.names
  regexps := selector.regexps ++ added.regexps
  all := selector.all || added.all
  negated := selector.negated
  personalityQualified := selector.personalityQualified || added.personalityQualified

@[simp] theorem join_negated (selector added : SyscallSelector) :
    (selector.join added).negated=selector.negated := rfl

/-- A joined selector covers what either part covers. -/
theorem covers_join (selector added : SyscallSelector) (name : String) :
    (selector.join added).covers name=(selector.covers name || added.covers name) := by
  unfold covers join
  simp only [Finset.mem_union,List.any_append,Bool.decide_or]
  cases selector.all <;> cases added.all <;> simp [Bool.or_assoc,Bool.or_left_comm]

theorem join_assoc (first second third : SyscallSelector) :
    (first.join second).join third=first.join (second.join third) := by
  unfold join
  simp only [Finset.union_assoc,List.append_assoc,Bool.or_assoc]

@[simp] theorem join_empty (selector : SyscallSelector) : selector.join {}=selector := by
  simp [join]

end SyscallSelector

namespace SyscallTable

variable (table : SyscallTable)

theorem addSyscallClass_eq (names : Finset String) (token : String) :
    table.addSyscallClass names token=(table.addSyscallClass ∅ token).map (names∪·) := by
  unfold addSyscallClass
  cases traceClassFlag token <;> simp

theorem addSyscallNumber_eq (names : Finset String) (token : String) :
    table.addSyscallNumber names token=(table.addSyscallNumber ∅ token).map (names∪·) := by
  unfold addSyscallNumber
  cases parseDecimal 32 token with
  | none => rfl
  | some number =>
    dsimp only
    cases table.lookup number.toUInt32 <;> simp

theorem addSyscallName_eq (names : Finset String) (name : String) :
    table.addSyscallName names name=(table.addSyscallName ∅ name).map (names∪·) := by
  unfold addSyscallName addTraceAliasesTo
  split_ifs
  · simp
  · rfl

end SyscallTable

namespace SyscallSelector

/-- An expression adds the same to every selector. -/
theorem addExpression_eq (selector : SyscallSelector) (token : String) :
    selector.addExpression build token=
      (addExpression build {} token).map (Option.map selector.join) := by
  unfold addExpression
  by_cases hpattern : hasPrefix token "/"=true
  · rw [if_pos hpattern,if_pos hpattern]
    dsimp only
    split_ifs with hbrace
    · rfl
    · cases build.compile (trimPrefix token "/") with
      | error message => rfl
      | ok expression =>
        dsimp only
        split_ifs with hmatch
        · rfl
        · simp [Except.map,join]
  · rw [if_neg hpattern,if_neg hpattern]
    rw [build.table.addSyscallClass_eq selector.names,
      build.table.addSyscallNumber_eq selector.names,
      build.table.addSyscallName_eq selector.names]
    cases build.table.addSyscallClass ∅ token with
    | some names => simp [Except.map,join]
    | none =>
      cases build.table.addSyscallNumber ∅ token with
      | some names => simp [Except.map,join]
      | none =>
        cases build.table.addSyscallName ∅ token with
        | some names => simp [Except.map,join]
        | none => rfl

theorem rejectInvalid_eq (selector added : SyscallSelector) (term : SyscallSelectorTerm) :
    (selector.join added).rejectInvalid term=(added.rejectInvalid term).map selector.join := by
  unfold rejectInvalid
  split_ifs <;> rfl

/-- A term adds the same to every selector. -/
theorem add_eq (selector : SyscallSelector) (term : SyscallSelectorTerm) (tokenCount : ℕ) :
    selector.add build term tokenCount=(add build {} term tokenCount).map selector.join := by
  have hmarked : ({selector with personalityQualified :=
      selector.personalityQualified || term.personalityQualified} : SyscallSelector)=
      selector.join {personalityQualified := term.personalityQualified} := by
    simp [join]
  unfold add
  simp only [hmarked,Bool.false_or]
  split_ifs with hall hactive hnone hcount hactive
  · simp [Except.map,join]
  · rfl
  · rfl
  · exact rejectInvalid_eq _ _ _
  · rw [addExpression_eq (selector.join _),
      addExpression_eq {personalityQualified := term.personalityQualified}]
    cases addExpression build {} term.expression with
    | error message => rfl
    | ok target =>
      cases target with
      | none => exact rejectInvalid_eq _ _ _
      | some target => simp [Except.map,join_assoc]
  · cases addExpression build {} term.expression with
    | error message => rfl
    | ok target =>
      cases target with
      | none => exact rejectInvalid_eq _ _ _
      | some target => rfl

/-- A list of tokens adds the same to every selector. -/
theorem addTokens_eq (selector : SyscallSelector) (tokenCount : ℕ) (tokens : List String) :
    selector.addTokens build tokenCount tokens=
      (addTokens build {} tokenCount tokens).map selector.join := by
  have hstep : ∀ (start : SyscallSelector) (token : String) (rest : List String),
      start.addTokens build tokenCount (token::rest)=(do
        let term ← parseSyscallSelectorTerm build.arch token
        let next ← start.add build term tokenCount
        next.addTokens build tokenCount rest) := by
    intro start token rest
    simp only [addTokens,List.foldlM_cons,bind_assoc]
  induction tokens generalizing selector with
  | nil =>
    change Except.ok selector=Except.ok (selector.join {})
    rw [join_empty]
  | cons token rest ih =>
    rw [hstep,hstep]
    cases parseSyscallSelectorTerm build.arch token with
    | error message => rfl
    | ok term =>
      change (selector.add build term tokenCount).bind _=
        ((add build {} term tokenCount).bind _).map selector.join
      rw [add_eq]
      cases add build {} term tokenCount with
      | error message => rfl
      | ok added =>
        change (selector.join added).addTokens build tokenCount rest=
          (added.addTokens build tokenCount rest).map selector.join
        rw [ih (selector.join added),ih added]
        cases addTokens build {} tokenCount rest with
        | error message => rfl
        | ok last =>
          change Except.ok _=Except.ok _
          rw [join_assoc]

/-- A list of tokens is accepted when its first token and the others are. -/
theorem addTokens_cons {tokenCount : ℕ} {token : String} {rest : List String}
    {result : SyscallSelector} (h : addTokens build {} tokenCount (token::rest)=.ok result) :
    ∃ first last, addTokens build {} tokenCount [token]=.ok first ∧
      addTokens build {} tokenCount rest=.ok last ∧ result=first.join last := by
  have hsplit : addTokens build {} tokenCount (token::rest)=
      (addTokens build {} tokenCount [token]).bind fun first =>
        first.addTokens build tokenCount rest := by
    unfold addTokens
    rw [←List.singleton_append,List.foldlM_append]
    rfl
  rw [hsplit] at h
  cases hfirst : addTokens build {} tokenCount [token] with
  | error message =>
    rw [hfirst] at h
    exact nomatch h
  | ok first =>
    rw [hfirst] at h
    change first.addTokens build tokenCount rest=.ok result at h
    rw [addTokens_eq] at h
    cases hlast : addTokens build {} tokenCount rest with
    | error message =>
      rw [hlast] at h
      exact nomatch h
    | ok last =>
      rw [hlast] at h
      exact ⟨first,last,rfl,rfl,(Except.ok.inj h).symm⟩

/-- A term that a list accepts is accepted on its own, with the same selection. -/
theorem add_alone {term : SyscallSelectorTerm} {tokenCount : ℕ} {added : SyscallSelector}
    (h : add build {} term tokenCount=.ok added) : add build {} term 1=.ok added := by
  unfold add at h ⊢
  dsimp only at h ⊢
  by_cases hall : term.expression="all" ∨ term.expression="%all"
  · rw [if_pos hall] at h ⊢
    exact h
  · rw [if_neg hall] at h ⊢
    by_cases hnone : term.expression="none"
    · rw [if_pos hnone] at h ⊢
      rw [if_pos rfl]
      unfold rejectInvalid at h
      split_ifs at h <;> exact h
    · rw [if_neg hnone] at h ⊢
      exact h

/-- A token that a list accepts is accepted on its own, with the same selection. -/
theorem addTokens_alone {tokenCount : ℕ} {token : String} {added : SyscallSelector}
    (h : addTokens build {} tokenCount [token]=.ok added) :
    addTokens build {} 1 [token]=.ok added := by
  unfold addTokens at h ⊢
  simp only [List.foldlM_cons,List.foldlM_nil,bind_pure] at h ⊢
  cases hterm : parseSyscallSelectorTerm build.arch token with
  | error message =>
    rw [hterm] at h
    exact nomatch h
  | ok term =>
    rw [hterm] at h
    exact add_alone h

end SyscallSelector

end Union

section Tokens

variable {build : Build}

theorem toList_of_hasPrefix_bang {s : String} (h : hasPrefix s "!"=true) :
    ∃ cs, s.toList= '!'::cs := by
  unfold hasPrefix at h
  obtain ⟨cs,hcs⟩ := List.isPrefixOf_iff_prefix.mp h
  exact ⟨cs,hcs.symm⟩

/-- Tokens are not empty and hold no separator. -/
theorem mem_fields {s token : String} {c : Char} (h : token∈fields s c) :
    token≠"" ∧ c∉token.toList := by
  unfold fields split at h
  obtain ⟨hmem,hne⟩ := List.mem_filter.mp h
  obtain ⟨part,hpart,rfl⟩ := List.mem_map.mp hmem
  refine ⟨by simpa using hne,?_⟩
  rw [String.toList_ofList]
  exact notMem_of_mem_splitOn hpart

/-- A text without separators is its only token. -/
theorem fields_of_notMem {s : String} {c : Char} (hne : s≠"") (h : c∉s.toList) :
    fields s c=[s] := by
  have hparts : s.toList.splitOn c=[s.toList] := by
    rw [List.splitOn_eq_splitOnP]
    apply List.splitOnP_eq_singleton
    intro x hx
    simp only [beq_eq_false_iff_ne]
    rintro rfl
    exact h hx
  unfold fields split
  rw [hparts]
  simp [hne]

/-- A text without a byte loses nothing when that byte is trimmed. -/
theorem trim_of_notMem {s : String} {c : Char} (h : c∉s.toList) : trim s c=s := by
  have hdrop : ∀ cs : List Char, c∉cs → cs.dropWhile (·==c)=cs := by
    intro cs hcs
    cases cs with
    | nil => rfl
    | cons x xs =>
      rw [List.dropWhile_cons_of_neg]
      intro hx
      exact hcs (by simp [beq_iff_eq.mp hx])
  unfold trim
  rw [hdrop _ h,hdrop _ (by simpa using h),List.reverse_reverse,String.ofList_toList]

/-- A text that starts with an exclamation mark has a token that does. -/
theorem fields_bang {s : String} (h : hasPrefix s "!"=true) :
    ∃ token rest, fields s ',' =token::rest ∧ hasPrefix token "!"=true := by
  obtain ⟨cs,hcs⟩ := toList_of_hasPrefix_bang h
  unfold fields split
  rw [hcs,List.splitOn_eq_splitOnP,List.splitOnP_cons_eq_if_modifyHead,
    if_neg (by decide)]
  cases hparts : cs.splitOnP (·== ',') with
  | nil => exact absurd hparts (List.splitOnP_ne_nil _ _)
  | cons head tail =>
    refine ⟨String.ofList ('!'::head),(tail.map String.ofList).filter (· != ""),?_,?_⟩
    · rw [List.modifyHead_cons,List.map_cons,List.filter_cons_of_pos]
      simp [bne_iff_ne,←String.toList_inj]
    · simp [hasPrefix,List.isPrefixOf]

/-- The expression of a term keeps a leading exclamation mark. -/
theorem cutLast_bang {cs before after : List Char}
    (h : cutLast '@' ('!'::cs)=some (before,after)) : ∃ rest, before= '!'::rest := by
  unfold cutLast at h
  cases hcut : cutLast '@' cs with
  | none =>
    rw [hcut] at h
    exact absurd h (by simp)
  | some parts =>
    rw [hcut] at h
    exact ⟨parts.1,by simpa using (congrArg Prod.fst (Option.some.inj h)).symm⟩

/-- No syscall, class or number starts with an exclamation mark. -/
theorem addExpression_bang {token : String} (h : hasPrefix token "!"=true) :
    SyscallSelector.addExpression build {} token=.ok none := by
  obtain ⟨cs,hcs⟩ := toList_of_hasPrefix_bang h
  have hslash : hasPrefix token "/"=false := by
    simp [hasPrefix,hcs,List.isPrefixOf]
  have hclass : traceClassFlag token=none := by
    unfold traceClassFlag
    rw [List.lookup_eq_none_iff]
    intro entry hentry
    have hhead : ∀ entry∈traceClassFlags, entry.1.toList.head?≠some '!' := by decide
    rw [bne_iff_ne]
    intro htoken
    apply hhead entry hentry
    rw [←htoken,hcs]
    rfl
  have hnumber : parseDecimal 32 token=none := by
    unfold parseDecimal
    rw [if_pos]
    right
    rw [hcs,List.all_cons]
    rfl
  have hname : (build.table.entries.any fun entry => entry.2.name==token)=false := by
    rw [List.any_eq_false]
    intro entry hentry htoken
    have hidentifier := build.table.identifiers entry hentry
    rw [beq_iff_eq.mp htoken] at hidentifier
    unfold isIdentifier at hidentifier
    rw [hcs,List.all_cons] at hidentifier
    exact absurd hidentifier Bool.false_ne_true
  unfold SyscallSelector.addExpression SyscallTable.addSyscallClass SyscallTable.addSyscallNumber
    SyscallTable.addSyscallName
  rw [hslash,hclass,hnumber,hname]
  rfl

/-- No token starts with an exclamation mark. -/
theorem addTokens_bang {token : String} (h : hasPrefix token "!"=true) (tokenCount : ℕ)
    (added : SyscallSelector) :
    SyscallSelector.addTokens build {} tokenCount [token]≠.ok added := by
  obtain ⟨cs,hcs⟩ := toList_of_hasPrefix_bang h
  have hquestion : hasPrefix token "?"=false := by
    simp [hasPrefix,hcs,List.isPrefixOf]
  have hexpression : trimPrefix token "?"=token := by
    unfold trimPrefix
    rw [hquestion]
    rfl
  have hreject : ∀ term : SyscallSelectorTerm, hasPrefix term.expression "!"=true →
      term.optional=false → SyscallSelector.add build {} term tokenCount≠.ok added := by
    intro term hterm hoptional
    obtain ⟨ts,hts⟩ := toList_of_hasPrefix_bang hterm
    have hne : ∀ word : String, word.toList.head?≠some '!' → term.expression≠word := by
      intro word hword heq
      apply hword
      rw [←heq,hts]
      rfl
    unfold SyscallSelector.add
    dsimp only
    rw [if_neg (by
        rintro (hall | hall)
        · exact hne _ (by decide) hall
        · exact hne _ (by decide) hall),
      if_neg (hne _ (by decide)),SyscallSelector.addExpression_eq,addExpression_bang hterm]
    unfold SyscallSelector.rejectInvalid
    simp [Except.map,hoptional]
  unfold SyscallSelector.addTokens parseSyscallSelectorTerm
  simp only [List.foldlM_cons,List.foldlM_nil,bind_pure]
  rw [hquestion,hexpression]
  cases hcut : cutLast '@' token.toList with
  | none => exact hreject _ h rfl
  | some parts =>
    obtain ⟨before,after⟩ := parts
    rw [hcs] at hcut
    obtain ⟨rest,rfl⟩ := cutLast_bang hcut
    dsimp only
    split_ifs
    · exact nofun
    · apply hreject _ _ rfl
      simp [hasPrefix,List.isPrefixOf]

/-- The tokens of an accepted list are accepted on their own. -/
theorem addTokens_accepted {tokenCount : ℕ} {tokens : List String} {result : SyscallSelector}
    (h : SyscallSelector.addTokens build {} tokenCount tokens=.ok result) :
    ∀ token∈tokens, hasPrefix token "!"=false ∧
      ∃ added, SyscallSelector.addTokens build {} 1 [token]=.ok added := by
  induction tokens generalizing result with
  | nil => simp
  | cons head rest ih =>
    obtain ⟨first,last,hfirst,hlast,rfl⟩ := SyscallSelector.addTokens_cons h
    intro token htoken
    rcases List.mem_cons.mp htoken with rfl | hrest
    · refine ⟨?_,first,SyscallSelector.addTokens_alone hfirst⟩
      by_contra hbang
      exact addTokens_bang (by simpa using hbang) _ _ hfirst
    · exact ih hlast token hrest

/-- An accepted list covers what one of its tokens covers. -/
theorem addTokens_covers {tokenCount : ℕ} {tokens : List String} {result : SyscallSelector}
    (h : SyscallSelector.addTokens build {} tokenCount tokens=.ok result) (name : String) :
    result.covers name=true ↔ ∃ token∈tokens, ∃ added,
      SyscallSelector.addTokens build {} 1 [token]=.ok added ∧ added.covers name=true := by
  induction tokens generalizing result with
  | nil =>
    obtain rfl := Except.ok.inj h
    simp [SyscallSelector.covers]
  | cons head rest ih =>
    obtain ⟨first,last,hfirst,hlast,rfl⟩ := SyscallSelector.addTokens_cons h
    have halone := SyscallSelector.addTokens_alone hfirst
    rw [SyscallSelector.covers_join,Bool.or_eq_true,ih hlast]
    simp only [List.mem_cons,exists_eq_or_imp]
    refine or_congr ?_ Iff.rfl
    constructor
    · intro hcovers
      exact ⟨first,halone,hcovers⟩
    · rintro ⟨added,hadded,hcovers⟩
      rw [halone] at hadded
      rwa [Except.ok.inj hadded]

end Tokens

section Selectors

variable {build : Build} {value : String}

/-- Selector of a text without a leading exclamation mark. -/
theorem parseSyscallSelector_of_not_bang (h : hasPrefix value "!"=false) :
    parseSyscallSelector build value=
      if trim value ',' = "" then .error ("invalid system call '" ++ value ++ "'")
      else SyscallSelector.addTokens build {} (fields value ',').length (fields value ',') := by
  have hbody : trimPrefix value "!"=value := by
    unfold trimPrefix
    rw [h]
    rfl
  unfold parseSyscallSelector
  dsimp only
  rw [h,hbody]

/-- Selector of a text behind an exclamation mark. -/
theorem parseSyscallSelector_bang (value : String) :
    parseSyscallSelector build ("!" ++ value)=
      if trim value ',' = "" then .error ("invalid system call '" ++ ("!" ++ value) ++ "'")
      else SyscallSelector.addTokens build {negated := true} (fields value ',').length
        (fields value ',') := by
  have hprefix : hasPrefix ("!" ++ value) "!"=true := by
    simp [hasPrefix,List.isPrefixOf]
  have hbody : trimPrefix ("!" ++ value) "!"=value := by
    unfold trimPrefix
    rw [if_pos hprefix]
    simp
  unfold parseSyscallSelector
  dsimp only
  rw [ hprefix,hbody]

/-- A text that is accepted behind an exclamation mark does not start with one. -/
theorem not_bang_of_accepted {selector : SyscallSelector}
    (h : parseSyscallSelector build ("!" ++ value)=.ok selector) :
    hasPrefix value "!"=false := by
  rw [parseSyscallSelector_bang] at h
  split_ifs at h
  rw [SyscallSelector.addTokens_eq] at h
  by_contra hbang
  obtain ⟨token,rest,htokens,htoken⟩ := fields_bang (s := value) (by simpa using hbang)
  cases hresult : SyscallSelector.addTokens build {} (fields value ',').length
      (fields value ',') with
  | error message =>
    rw [hresult] at h
    exact nomatch h
  | ok result =>
    have hmem : token∈fields value ',' := by
      rw [htokens]
      exact List.mem_cons_self
    have hplain := (addTokens_accepted hresult token hmem).1
    rw [htoken] at hplain
    exact Bool.noConfusion hplain

/-- An exclamation mark negates the selector of the text behind it. -/
theorem parseSyscallSelector_negated (h : hasPrefix value "!"=false) (selector : SyscallSelector) :
    parseSyscallSelector build ("!" ++ value)=.ok selector ↔
      ∃ plain, parseSyscallSelector build value=.ok plain ∧
        selector={plain with negated := true} := by
  rw [parseSyscallSelector_bang,parseSyscallSelector_of_not_bang h]
  split_ifs
  · simp
  · rw [SyscallSelector.addTokens_eq]
    cases SyscallSelector.addTokens build {} (fields value ',').length (fields value ',') with
    | error message => simp [Except.map]
    | ok plain => simp [Except.map,SyscallSelector.join,eq_comm]

theorem parseSyscallSelector_not_negated {selector : SyscallSelector}
    (h : hasPrefix value "!"=false) (hparse : parseSyscallSelector build value=.ok selector) :
    selector.negated=false := by
  rw [parseSyscallSelector_of_not_bang h] at hparse
  split_ifs at hparse
  rw [SyscallSelector.addTokens_eq] at hparse
  cases hresult : SyscallSelector.addTokens build {} (fields value ',').length
      (fields value ',') with
  | error message =>
    rw [hresult] at hparse
    exact nomatch hparse
  | ok result =>
    rw [hresult] at hparse
    rw [←Except.ok.inj hparse]
    rfl

/-- A token is its own selector. -/
theorem parseSyscallSelector_token {token : String} (htoken : token∈fields value ',')
    (h : hasPrefix token "!"=false) :
    parseSyscallSelector build token=SyscallSelector.addTokens build {} 1 [token] := by
  obtain ⟨hne,hcomma⟩ := mem_fields htoken
  rw [parseSyscallSelector_of_not_bang h,trim_of_notMem hcomma,if_neg hne,
    fields_of_notMem hne hcomma]
  rfl

/-- A list is accepted only with all its terms, and covers what one of them covers. -/
theorem parseSyscallSelector_union {selector : SyscallSelector}
    (h : hasPrefix value "!"=false) (hparse : parseSyscallSelector build value=.ok selector) :
    (∀ token∈fields value ',', hasPrefix token "!"=false ∧
      ∃ alone, parseSyscallSelector build token=.ok alone) ∧
    ∀ name, selector.covers name=true ↔ ∃ token∈fields value ',', ∃ alone,
      parseSyscallSelector build token=.ok alone ∧ alone.covers name=true := by
  rw [parseSyscallSelector_of_not_bang h] at hparse
  split_ifs at hparse
  have haccepted := addTokens_accepted hparse
  have htoken : ∀ token∈fields value ',', parseSyscallSelector build token=
      SyscallSelector.addTokens build {} 1 [token] := by
    intro token hmem
    exact parseSyscallSelector_token hmem (haccepted token hmem).1
  constructor
  · intro token hmem
    obtain ⟨hplain,alone,halone⟩ := haccepted token hmem
    exact ⟨hplain,alone,(htoken token hmem).trans halone⟩
  · intro name
    rw [addTokens_covers hparse name]
    constructor
    · rintro ⟨token,hmem,alone,halone,hcovers⟩
      exact ⟨token,hmem,alone,(htoken token hmem).trans halone,hcovers⟩
    · rintro ⟨token,hmem,alone,halone,hcovers⟩
      exact ⟨token,hmem,alone,(htoken token hmem).symm.trans halone,hcovers⟩

end Selectors

end StraceGo.SyscallSelection

import StraceGo.PathSelection
import Mathlib.Algebra.Ring.Parity
import Mathlib.Logic.Basic

/-!
# Descriptor sets of the command line

A descriptor set is a comma list of numbers, or one of two words, behind any
number of exclamation marks. Three options take one, and the options, the
session's filter and the handlers' options each look descriptors up in it. What
they answer is what the text says, except for an odd number of marks before the
word for all descriptors: the parser leaves a negated empty set there, which
holds everything.
-/

namespace StraceGo.DescriptorSets

open GoText
open PathSelection (TraceFilter matchTraceFD traceAllFDs)

section Parser

/-- Characters skipped before a descriptor. -/
def descriptorLeadingWhitespace : String := " \t\n\r\x0b\x0c"

/-- Parsed descriptors. -/
structure DescriptorSet where
  /-- Listed descriptors; the sentinel stands for all. -/
  fds : Finset Int32 := ∅
  /-- The others are meant. -/
  negated : Bool := false
  deriving DecidableEq

/-- Descriptor of an item. -/
def parseDescriptor (value : String) : Option Int32 :=
  match parseInt 32 (trimLeft value descriptorLeadingWhitespace) with
  | none => none
  | some parsed => if parsed < 0 then none else some (Int32.ofInt parsed)

/-- Number of leading exclamation marks, with the characters after them. -/
def stripNegations : List Char → ℕ×List Char
  | '!'::cs => ((stripNegations cs).1+1,(stripNegations cs).2)
  | cs => (0,cs)

/-- Message for an item that is no descriptor. -/
def invalidDescriptor (item : String) : String := "invalid descriptor '" ++ item ++ "'"

/-- Collect the descriptor of an item, if there is one. -/
def addDescriptor (parsed : Finset Int32×Bool) (descriptor : String) :
    Except String (Finset Int32×Bool) :=
  if descriptor="" then .ok parsed
  else
    match parseDescriptor descriptor with
    | none => .error (invalidDescriptor descriptor)
    | some fd => .ok (insert fd parsed.1,true)

/-- Collect the descriptors of some items, and whether there were any. -/
def addDescriptors (parsed : Finset Int32×Bool) : List String → Except String (Finset Int32×Bool)
  | [] => .ok parsed
  | descriptor::rest =>
    match addDescriptor parsed descriptor with
    | .error message => .error message
    | .ok parsed => addDescriptors parsed rest

/-- Parse a descriptor set. -/
def parseDescriptorSet (value : String) : Except String DescriptorSet :=
  let (negations,rest) := stripNegations value.toList
  let negated := negations%2==1
  let body := String.ofList rest
  if body="all" then
    if negated then .ok {negated} else .ok {fds := {traceAllFDs}, negated}
  else if body="none" then
    if negated then .ok {fds := {traceAllFDs}, negated := false} else .ok {negated}
  else
    match addDescriptors (∅,false) (split body ',') with
    | .error message => .error message
    | .ok (fds,parsedAny) =>
      if parsedAny then .ok {fds,negated} else .error (invalidDescriptor value)

/-- Parse a descriptor set into another set, which is emptied first. -/
def parseReadWriteFDSet (value : String) : Except String (Finset Int32×Bool) :=
  match parseDescriptorSet value with
  | .error message => .error message
  | .ok parsed => .ok (parsed.fds,parsed.negated)

end Parser

section Options

/-- Options with their descriptor sets. -/
structure Options extends SyscallFilterPushdown.Options where
  /-- Traced descriptors. -/
  traceFDs : Finset Int32 := ∅
  /-- Descriptors were given. -/
  traceFDsConfigured : Bool := false
  /-- All others are traced. -/
  traceFDsNegated : Bool := false
  /-- Descriptors whose reads are dumped. -/
  traceReadFDs : Finset Int32 := ∅
  /-- Reads of all others are dumped. -/
  traceReadFDsNegated : Bool := false
  /-- Descriptors whose writes are dumped. -/
  traceWriteFDs : Finset Int32 := ∅
  /-- Writes of all others are dumped. -/
  traceWriteFDsNegated : Bool := false

namespace Options

variable (opts : Options)

/-- Whether reads of a descriptor are dumped. -/
def traceReadFD (fd : Int32) : Bool :=
  if opts.traceReadFDsNegated then decide (traceAllFDs∉opts.traceReadFDs ∧ fd∉opts.traceReadFDs)
  else decide (traceAllFDs∈opts.traceReadFDs ∨ fd∈opts.traceReadFDs)

/-- Whether writes of a descriptor are dumped. -/
def traceWriteFD (fd : Int32) : Bool :=
  if opts.traceWriteFDsNegated then
    decide (traceAllFDs∉opts.traceWriteFDs ∧ fd∉opts.traceWriteFDs)
  else decide (traceAllFDs∈opts.traceWriteFDs ∨ fd∈opts.traceWriteFDs)

/-- Set the descriptors whose reads are dumped. -/
def parseReadFlag (value : String) : Except String Options :=
  match parseReadWriteFDSet value with
  | .error message => .error message
  | .ok (fds,negated) => .ok {opts with traceReadFDs := fds, traceReadFDsNegated := negated}

/-- Set the descriptors whose writes are dumped. -/
def parseWriteFlag (value : String) : Except String Options :=
  match parseReadWriteFDSet value with
  | .error message => .error message
  | .ok (fds,negated) => .ok {opts with traceWriteFDs := fds, traceWriteFDsNegated := negated}

/-- Set the traced descriptors. -/
def parseTraceFDSet (value : String) : Except String Options :=
  match parseDescriptorSet value with
  | .error message => .error message
  | .ok parsed =>
    .ok {opts with
      traceFDs := parsed.fds
      traceFDsConfigured := true
      traceFDsNegated := parsed.negated}

/-- The session's filter of some options. -/
def newTraceFilterOptions : TraceFilter where
  debug := opts.debugEvents
  syscalls := SyscallFilterPushdown.newTraceFilterOptions opts.toOptions
  traceFDs := opts.traceFDs
  traceFDsConfigured :=
    opts.traceFDsConfigured || decide (opts.traceFDs≠∅) || opts.traceFDsNegated
  traceFDsNegated := opts.traceFDsNegated
  traceReadFDs := opts.traceReadFDs
  traceReadNegated := opts.traceReadFDsNegated
  traceWriteFDs := opts.traceWriteFDs
  traceWriteNegated := opts.traceWriteFDsNegated
  tracePaths := opts.tracePaths

end Options

/-- Whether the filter has reads of a descriptor dumped. -/
def filterTraceReadFD (filter : TraceFilter) (fd : Int32) : Bool :=
  matchTraceFD fd filter.traceReadFDs filter.traceReadNegated

/-- Whether the filter has writes of a descriptor dumped. -/
def filterTraceWriteFD (filter : TraceFilter) (fd : Int32) : Bool :=
  matchTraceFD fd filter.traceWriteFDs filter.traceWriteNegated

/-- Descriptor sets of the handlers' options. -/
structure TraceHandlerOptions where
  /-- Descriptors whose reads are dumped. -/
  traceReadFDs : Finset Int32
  /-- Reads of all others are dumped. -/
  traceReadNegated : Bool
  /-- Descriptors whose writes are dumped. -/
  traceWriteFDs : Finset Int32
  /-- Writes of all others are dumped. -/
  traceWriteNegated : Bool

namespace TraceHandlerOptions

/-- Whether the handlers dump reads of a descriptor. -/
def traceReadFD (options : TraceHandlerOptions) (fd : Int32) : Bool :=
  matchTraceFD fd options.traceReadFDs options.traceReadNegated

/-- Whether the handlers dump writes of a descriptor. -/
def traceWriteFD (options : TraceHandlerOptions) (fd : Int32) : Bool :=
  matchTraceFD fd options.traceWriteFDs options.traceWriteNegated

end TraceHandlerOptions

/-- The handlers' options of some options. -/
def newTraceHandlerOptions (opts : Options) : TraceHandlerOptions where
  traceReadFDs := opts.traceReadFDs
  traceReadNegated := opts.traceReadFDsNegated
  traceWriteFDs := opts.traceWriteFDs
  traceWriteNegated := opts.traceWriteFDsNegated

end Options

section Meaning

/-- Number of leading exclamation marks of a text. -/
def negations (value : String) : ℕ := (value.toList.takeWhile (·== '!')).length

/-- Text after the leading exclamation marks. -/
def body (value : String) : String := String.ofList (value.toList.dropWhile (·== '!'))

/-- An optionally signed decimal and its value. -/
def IsDecimal (s : String) (n : ℤ) : Prop :=
  ∃ digits : List Char, digits≠[] ∧ digits.all Char.isDigit=true ∧
    ((s.toList=digits ∨ s.toList= '+'::digits) ∧ n=Nat.ofDigitChars 10 digits 0 ∨
      s.toList= '-'::digits ∧ n=-Nat.ofDigitChars 10 digits 0)

/-- An item that is a descriptor after its leading blanks. -/
def IsDescriptor (item : String) (n : ℤ) : Prop :=
  IsDecimal (trimLeft item descriptorLeadingWhitespace) n ∧ 0 ≤ n ∧ n < 2^31

/-- A descriptor is an item of the comma list. -/
def Listed (value : String) (fd : Int32) : Prop :=
  ∃ item∈split (body value) ',', item≠"" ∧ IsDescriptor item fd.toInt

/-- A descriptor is in the set that a text describes. -/
def Denotes (value : String) (fd : Int32) : Prop :=
  Xor (Listed value fd ∨ body value="all") (Odd (negations value))

/-- A text is no descriptor set: an item is no descriptor, or there is none. -/
def Malformed (value : String) : Prop :=
  body value≠"all" ∧ body value≠"none" ∧
    ((∃ item∈split (body value) ',', item≠"" ∧ ¬∃ n, IsDescriptor item n) ∨
      ∀ item∈split (body value) ',', item="")

/-- The options and what is made of them look descriptors up in the set of the text. -/
structure MeansItsSet (value : String) : Prop where
  /-- What is refused. -/
  rejects : (∃ message, parseDescriptorSet value=.error message) ↔ Malformed value
  /-- Dumped reads. -/
  reads : ∀ opts opts' : Options, opts.parseReadFlag value=.ok opts' → ∀ fd : Int32, 0 ≤ fd →
    (opts'.traceReadFD fd=true ↔ Denotes value fd) ∧
    (filterTraceReadFD opts'.newTraceFilterOptions fd=true ↔ Denotes value fd) ∧
    ((newTraceHandlerOptions opts').traceReadFD fd=true ↔ Denotes value fd)
  /-- Dumped writes. -/
  writes : ∀ opts opts' : Options, opts.parseWriteFlag value=.ok opts' → ∀ fd : Int32, 0 ≤ fd →
    (opts'.traceWriteFD fd=true ↔ Denotes value fd) ∧
    (filterTraceWriteFD opts'.newTraceFilterOptions fd=true ↔ Denotes value fd) ∧
    ((newTraceHandlerOptions opts').traceWriteFD fd=true ↔ Denotes value fd)
  /-- Traced descriptors. -/
  traced : ∀ opts opts' : Options, opts.parseTraceFDSet value=.ok opts' → ∀ fds : List Int32,
    (opts'.newTraceFilterOptions.matchFDs fds=true ↔ ∃ fd∈fds, 0 ≤ fd ∧ Denotes value fd)

end Meaning

section Items

/-- The marks are counted and dropped. -/
theorem stripNegations_eq (cs : List Char) :
    stripNegations cs=((cs.takeWhile (·== '!')).length,cs.dropWhile (·== '!')) := by
  induction cs with
  | nil => rfl
  | cons c cs ih =>
    by_cases hc : c= '!'
    · rw [hc]
      simp [stripNegations,ih]
    · have hstop : stripNegations (c::cs)=(0,c::cs) := by
        unfold stripNegations
        split
        · rename_i heq
          exact absurd (List.cons.inj heq).1 hc
        · rfl
      rw [hstop]
      simp [hc]

/-- A digit is no sign. -/
theorem cutSign_of_digit {d : Char} {ds : List Char} (h : d.isDigit=true) :
    cutSign (d::ds)=(false,d::ds) := by
  unfold cutSign
  split
  · rename_i heq
    rw [(List.cons.inj heq).1] at h
    exact absurd h (by decide)
  · rename_i heq
    rw [(List.cons.inj heq).1] at h
    exact absurd h (by decide)
  · rfl

/-- A signed decimal is a sign and its digits. -/
theorem isDecimal_iff {s : String} {n : ℤ} :
    IsDecimal s n ↔ (cutSign s.toList).2≠[] ∧ (cutSign s.toList).2.all Char.isDigit=true ∧
      n=if (cutSign s.toList).1 then -(Nat.ofDigitChars 10 (cutSign s.toList).2 0 : ℤ)
        else Nat.ofDigitChars 10 (cutSign s.toList).2 0 := by
  constructor
  · rintro ⟨digits,hne,hall,⟨hs | hs,hn⟩ | ⟨hs,hn⟩⟩
    · have hcut : cutSign s.toList=(false,digits) := by
        cases digits with
        | nil => exact absurd rfl hne
        | cons d ds =>
          rw [hs]
          apply cutSign_of_digit
          rw [List.all_cons,Bool.and_eq_true] at hall
          exact hall.1
      rw [hcut]
      exact ⟨hne,hall,hn⟩
    · rw [hs]
      exact ⟨hne,hall,hn⟩
    · rw [hs]
      exact ⟨hne,hall,hn⟩
  · rintro ⟨hne,hall,hn⟩
    refine ⟨(cutSign s.toList).2,hne,hall,?_⟩
    revert hn
    generalize s.toList=cs
    unfold cutSign
    split
    · exact fun hn => Or.inl ⟨Or.inr rfl,hn⟩
    · exact fun hn => Or.inr ⟨rfl,hn⟩
    · exact fun hn => Or.inl ⟨Or.inl rfl,hn⟩

/-- Exactly the decimals of the width parse. -/
theorem parseInt_eq_some_iff {s : String} {n : ℤ} :
    parseInt 32 s=some n ↔ IsDecimal s n ∧ -2^31 ≤ n ∧ n < 2^31 := by
  rw [isDecimal_iff]
  unfold parseInt parseDecimal
  generalize cutSign s.toList=sign
  obtain ⟨negative,digits⟩ := sign
  dsimp only
  rw [String.toList_ofList]
  by_cases hdigits : digits=[] ∨ digits.all Char.isDigit=false
  · rw [if_pos hdigits]
    simp only [reduceCtorEq,false_iff]
    rintro ⟨⟨hne,hall,-⟩,-⟩
    rcases hdigits with hnil | hfalse
    · exact hne hnil
    · rw [hall] at hfalse
      exact Bool.noConfusion hfalse
  · rw [if_neg hdigits]
    have hne : digits≠[] := fun hnil => hdigits (Or.inl hnil)
    have hall : digits.all Char.isDigit=true := by
      rw [←Bool.not_eq_false]
      exact fun hfalse => hdigits (Or.inr hfalse)
    generalize Nat.ofDigitChars 10 digits 0=m
    cases negative <;> by_cases hm : m < 2^32 <;>
      simp only [hm,if_true,if_false,Bool.false_eq_true,hne,hall,ne_eq,not_false_eq_true,true_and,
        reduceCtorEq,false_iff]
    all_goals first | omega | (split_ifs <;> simp <;> omega)

/-- Exactly the descriptors parse, to themselves. -/
theorem parseDescriptor_eq_some_iff {item : String} {fd : Int32} :
    parseDescriptor item=some fd ↔ IsDescriptor item fd.toInt := by
  have hlow := Int32.le_toInt fd
  have hhigh := Int32.toInt_lt fd
  unfold parseDescriptor IsDescriptor
  cases hparsed : parseInt 32 (trimLeft item descriptorLeadingWhitespace) with
  | none =>
    simp only [reduceCtorEq,false_iff]
    rintro ⟨hdecimal,hnonneg,hlt⟩
    have hsome := parseInt_eq_some_iff.mpr ⟨hdecimal,by omega,hlt⟩
    rw [hparsed] at hsome
    exact absurd hsome.symm (Option.some_ne_none _)
  | some n =>
    obtain ⟨hdecimal,hmin,hmax⟩ := parseInt_eq_some_iff.mp hparsed
    dsimp only
    constructor
    · intro h
      split_ifs at h with hneg
      have hvalue : (Int32.ofInt n).toInt=n := Int32.toInt_ofInt_of_le hmin hmax
      rw [←Option.some.inj h,hvalue]
      exact ⟨hdecimal,by omega,hmax⟩
    · rintro ⟨hfd,hnonneg,hlt⟩
      have hsome := parseInt_eq_some_iff.mpr ⟨hfd,by omega,hlt⟩
      rw [hparsed] at hsome
      rw [Option.some.inj hsome,if_neg (by omega),Int32.ofInt_toInt]

/-- What does not parse is no descriptor. -/
theorem parseDescriptor_eq_none_iff {item : String} :
    parseDescriptor item=none ↔ ¬∃ n, IsDescriptor item n := by
  constructor
  · rintro hnone ⟨n,hdecimal,hnonneg,hlt⟩
    have hvalue : (Int32.ofInt n).toInt=n := Int32.toInt_ofInt_of_le (by omega) hlt
    have hsome : parseDescriptor item=some (Int32.ofInt n) := by
      rw [parseDescriptor_eq_some_iff,hvalue]
      exact ⟨hdecimal,hnonneg,hlt⟩
    rw [hnone] at hsome
    exact absurd hsome.symm (Option.some_ne_none _)
  · intro h
    cases hparsed : parseDescriptor item with
    | none => rfl
    | some fd => exact absurd ⟨fd.toInt,parseDescriptor_eq_some_iff.mp hparsed⟩ h

/-- What collecting an item does. -/
theorem addDescriptor_cases (parsed : Finset Int32×Bool) (item : String) :
    item="" ∧ addDescriptor parsed item=.ok parsed ∨
    item≠"" ∧ parseDescriptor item=none ∧
      addDescriptor parsed item=.error (invalidDescriptor item) ∨
    item≠"" ∧ ∃ fd, parseDescriptor item=some fd ∧
      addDescriptor parsed item=.ok (insert fd parsed.1,true) := by
  unfold addDescriptor
  by_cases hempty : item=""
  · rw [if_pos hempty]
    exact Or.inl ⟨hempty,rfl⟩
  · rw [if_neg hempty]
    cases hparsed : parseDescriptor item with
    | none => exact Or.inr (Or.inl ⟨hempty,rfl,rfl⟩)
    | some fd => exact Or.inr (Or.inr ⟨hempty,fd,rfl,rfl⟩)

/-- A list is refused at an item that is no descriptor. -/
theorem addDescriptors_error_iff {parsed : Finset Int32×Bool} {items : List String} :
    (∃ message, addDescriptors parsed items=.error message) ↔
      ∃ item∈items, item≠"" ∧ parseDescriptor item=none := by
  induction items generalizing parsed with
  | nil => simp [addDescriptors]
  | cons item rest ih =>
    rw [addDescriptors]
    simp only [List.mem_cons,exists_eq_or_imp]
    rcases addDescriptor_cases parsed item with ⟨hempty,heq⟩ | ⟨hne,hnone,heq⟩ | ⟨hne,fd,hfd,heq⟩
    · rw [heq,ih]
      exact ⟨Or.inr,fun h => h.resolve_left fun hitem => hitem.1 hempty⟩
    · rw [heq]
      exact ⟨fun _ => Or.inl ⟨hne,hnone⟩,fun _ => ⟨_,rfl⟩⟩
    · rw [heq,ih,hfd]
      simp only [reduceCtorEq,and_false,false_or]

/-- An accepted list adds the descriptors of its items. -/
theorem mem_addDescriptors {parsed result : Finset Int32×Bool} {items : List String}
    (h : addDescriptors parsed items=.ok result) (fd : Int32) :
    fd∈result.1 ↔ fd∈parsed.1 ∨ ∃ item∈items, item≠"" ∧ parseDescriptor item=some fd := by
  induction items generalizing parsed with
  | nil =>
    rw [addDescriptors] at h
    rw [Except.ok.inj h]
    simp
  | cons item rest ih =>
    rw [addDescriptors] at h
    simp only [List.mem_cons,exists_eq_or_imp]
    rcases addDescriptor_cases parsed item with ⟨hempty,heq⟩ | ⟨hne,hnone,heq⟩ | ⟨hne,first,hfd,heq⟩
    · rw [heq] at h
      rw [ih h]
      simp only [hempty,ne_eq,not_true_eq_false,false_and,false_or]
    · rw [heq] at h
      exact absurd h (by simp)
    · rw [heq] at h
      rw [ih h,Finset.mem_insert,hfd]
      simp only [ne_eq,hne,not_false_eq_true,true_and,Option.some.injEq]
      rw [or_assoc,or_left_comm,eq_comm]

/-- An accepted list tells whether it has an item. -/
theorem found_addDescriptors {parsed result : Finset Int32×Bool} {items : List String}
    (h : addDescriptors parsed items=.ok result) :
    result.2=true ↔ parsed.2=true ∨ ∃ item∈items, item≠"" := by
  induction items generalizing parsed with
  | nil =>
    rw [addDescriptors] at h
    rw [Except.ok.inj h]
    simp
  | cons item rest ih =>
    rw [addDescriptors] at h
    simp only [List.mem_cons,exists_eq_or_imp]
    rcases addDescriptor_cases parsed item with ⟨hempty,heq⟩ | ⟨hne,hnone,heq⟩ | ⟨hne,first,hfd,heq⟩
    · rw [heq] at h
      rw [ih h]
      simp only [hempty,ne_eq,not_true_eq_false,false_or]
    · rw [heq] at h
      exact absurd h (by simp)
    · rw [heq] at h
      rw [ih h]
      simp only [ne_eq,hne,not_false_eq_true,true_or,or_true]

end Items

section Sets

variable {value : String}

/-- The parser counts the marks and keeps the text after them. -/
theorem stripNegations_toList (value : String) :
    stripNegations value.toList=(negations value,(body value).toList) := by
  unfold negations body
  rw [stripNegations_eq,String.toList_ofList]

/-- The parser asks for the parity of the marks. -/
theorem parity_eq (value : String) : (negations value%2==1)=decide (Odd (negations value)) := by
  by_cases h : Odd (negations value)
  · rw [decide_eq_true h]
    exact beq_iff_eq.mpr (Nat.odd_iff.mp h)
  · rw [decide_eq_false h]
    exact beq_eq_false_iff_ne.mpr fun hodd => h (Nat.odd_iff.mpr hodd)

/-- The parser on the word for all descriptors. -/
theorem parseDescriptorSet_all (h : body value="all") :
    parseDescriptorSet value=
      .ok (if Odd (negations value) then ⟨∅,true⟩ else ⟨{traceAllFDs},false⟩) := by
  unfold parseDescriptorSet
  rw [stripNegations_toList]
  dsimp only
  rw [String.ofList_toList,if_pos h,parity_eq]
  by_cases hodd : Odd (negations value)
  · rw [decide_eq_true hodd,if_pos rfl,if_pos hodd]
  · rw [decide_eq_false hodd,if_neg Bool.false_ne_true,if_neg hodd]

/-- The parser on the word for no descriptor. -/
theorem parseDescriptorSet_none (h : body value="none") :
    parseDescriptorSet value=
      .ok (if Odd (negations value) then ⟨{traceAllFDs},false⟩ else ⟨∅,false⟩) := by
  have hall : body value≠"all" := by
    rw [h]
    decide
  unfold parseDescriptorSet
  rw [stripNegations_toList]
  dsimp only
  rw [String.ofList_toList,if_neg hall,if_pos h,parity_eq]
  by_cases hodd : Odd (negations value)
  · rw [decide_eq_true hodd,if_pos rfl,if_pos hodd]
  · rw [decide_eq_false hodd,if_neg Bool.false_ne_true,if_neg hodd]

/-- The parser on a comma list. -/
theorem parseDescriptorSet_list (hall : body value≠"all") (hnone : body value≠"none") :
    parseDescriptorSet value=
      match addDescriptors (∅,false) (split (body value) ',') with
      | .error message => .error message
      | .ok (fds,parsedAny) =>
        if parsedAny then .ok ⟨fds,decide (Odd (negations value))⟩
        else .error (invalidDescriptor value) := by
  unfold parseDescriptorSet
  rw [stripNegations_toList]
  dsimp only
  rw [String.ofList_toList,if_neg hall,if_neg hnone,parity_eq]

/-- Items of the text are what the parser finds. -/
theorem listed_iff {fd : Int32} :
    Listed value fd ↔ ∃ item∈split (body value) ',', item≠"" ∧ parseDescriptor item=some fd := by
  unfold Listed
  simp only [parseDescriptor_eq_some_iff]

/-- The word for no descriptor lists none. -/
theorem not_listed_of_none {fd : Int32} (h : body value="none") : ¬Listed value fd := by
  rw [listed_iff,h]
  have hsplit : split "none" ','=["none"] := by decide
  have hparse : parseDescriptor "none"=none := by decide
  rw [hsplit]
  simp [hparse]

/-- The sentinel is no descriptor. -/
theorem not_listed_sentinel : ¬Listed value traceAllFDs := by
  rintro ⟨item,-,-,-,hnonneg,-⟩
  exact absurd hnonneg (by decide)

/-- Exactly the malformed texts are refused. -/
theorem parseDescriptorSet_error_iff :
    (∃ message, parseDescriptorSet value=.error message) ↔ Malformed value := by
  unfold Malformed
  by_cases hall : body value="all"
  · rw [parseDescriptorSet_all hall]
    simp [hall]
  by_cases hnone : body value="none"
  · rw [parseDescriptorSet_none hnone]
    simp [hnone]
  rw [parseDescriptorSet_list hall hnone]
  simp only [ne_eq,hall,hnone,not_false_eq_true,true_and,←parseDescriptor_eq_none_iff]
  cases hitems : addDescriptors (∅,false) (split (body value) ',') with
  | error message =>
    have hrefused := addDescriptors_error_iff.mp ⟨message,hitems⟩
    exact ⟨fun _ => Or.inl hrefused,fun _ => ⟨message,rfl⟩⟩
  | ok result =>
    have hnot : ¬∃ item∈split (body value) ',', item≠"" ∧ parseDescriptor item=none := by
      rw [←addDescriptors_error_iff,hitems]
      rintro ⟨message,h⟩
      exact absurd h (by simp)
    have hfound := found_addDescriptors hitems
    dsimp only
    by_cases h : result.2=true
    · obtain ⟨item,hitem,hne⟩ := (hfound.mp h).resolve_left Bool.false_ne_true
      rw [if_pos h]
      constructor
      · rintro ⟨message,hmessage⟩
        exact absurd hmessage (by simp)
      · rintro (hbad | hempty)
        · exact absurd hbad hnot
        · exact absurd (hempty item hitem) hne
    · rw [if_neg h]
      refine ⟨fun _ => Or.inr fun item hitem => ?_,fun _ => ⟨_,rfl⟩⟩
      by_contra hne
      exact h (hfound.mpr (Or.inr ⟨item,hitem,hne⟩))

/-- Looking a descriptor up in an accepted set answers what the text says, unless the set is a
negated empty one for the word for all descriptors. -/
theorem matchTraceFD_iff {parsed : DescriptorSet} (h : parseDescriptorSet value=.ok parsed)
    (hword : ¬(body value="all" ∧ Odd (negations value))) (fd : Int32) :
    matchTraceFD fd parsed.fds parsed.negated=true ↔ Denotes value fd := by
  unfold matchTraceFD Denotes
  by_cases hall : body value="all"
  · have hodd : ¬Odd (negations value) := fun hodd => hword ⟨hall,hodd⟩
    rw [parseDescriptorSet_all hall,if_neg hodd] at h
    rw [←Except.ok.inj h]
    simp [hall,hodd,Xor]
  by_cases hnone : body value="none"
  · have hlisted : ¬Listed value fd := not_listed_of_none hnone
    rw [parseDescriptorSet_none hnone] at h
    rw [←Except.ok.inj h]
    by_cases hodd : Odd (negations value) <;> simp [hall,hodd,hlisted,Xor]
  rw [parseDescriptorSet_list hall hnone] at h
  cases hitems : addDescriptors (∅,false) (split (body value) ',') with
  | error message =>
    rw [hitems] at h
    exact absurd h (by simp)
  | ok result =>
    rw [hitems] at h
    dsimp only at h
    split_ifs at h with hfound
    have hmem : ∀ fd, fd∈result.1 ↔ Listed value fd := by
      intro fd
      rw [mem_addDescriptors hitems fd,listed_iff]
      simp
    rw [←Except.ok.inj h]
    by_cases hodd : Odd (negations value) <;> simp [hall,hodd,hmem,Xor,not_listed_sentinel]

/-- The sets of dumped descriptors are looked up likewise. -/
theorem matchTraceFD_of_parseReadWriteFDSet {fds : Finset Int32} {negated : Bool}
    (h : parseReadWriteFDSet value=.ok (fds,negated))
    (hword : ¬(body value="all" ∧ Odd (negations value))) (fd : Int32) :
    matchTraceFD fd fds negated=true ↔ Denotes value fd := by
  unfold parseReadWriteFDSet at h
  cases hparsed : parseDescriptorSet value with
  | error message =>
    rw [hparsed] at h
    exact absurd h (by simp)
  | ok parsed =>
    rw [hparsed] at h
    obtain ⟨hfds,hnegated⟩ := Prod.mk.inj (Except.ok.inj h)
    rw [←hfds,←hnegated]
    exact matchTraceFD_iff hparsed hword fd

/-- A configured filter selects a list with a descriptor of its set. -/
theorem matchFDs_iff {filter : TraceFilter} (h : filter.traceFDsConfigured=true)
    (fds : List Int32) :
    filter.matchFDs fds=true ↔ ∃ fd∈fds, 0 ≤ fd ∧
      matchTraceFD fd filter.traceFDs filter.traceFDsNegated=true := by
  unfold TraceFilter.matchFDs matchTraceFD
  rw [if_neg (by simp [h])]
  cases filter.traceFDsNegated <;> simp [List.any_filter]

/-- Descriptors found in a set whose lookup is that of the text are those of the text. -/
theorem matchFDs_denotes {filter : TraceFilter} (hconfigured : filter.traceFDsConfigured=true)
    (hlookup : ∀ fd, matchTraceFD fd filter.traceFDs filter.traceFDsNegated=true ↔ Denotes value fd)
    (fds : List Int32) :
    filter.matchFDs fds=true ↔ ∃ fd∈fds, 0 ≤ fd ∧ Denotes value fd := by
  rw [matchFDs_iff hconfigured]
  simp only [hlookup]

/-- An odd number of marks before the word for all descriptors describes no descriptor. -/
theorem not_denotes_of_negated_all (hall : body value="all") (hodd : Odd (negations value))
    (fd : Int32) : ¬Denotes value fd := by
  rintro (⟨-,heven⟩ | ⟨-,hnot⟩)
  · exact heven hodd
  · exact hnot (Or.inr hall)

/-- Every lookup answers what the text says, unless an odd number of exclamation marks stands
before the word for all descriptors. -/
theorem descriptor_sets_mean_their_set (value : String) :
    MeansItsSet value ↔ ¬(body value="all" ∧ Odd (negations value)) := by
  constructor
  · rintro hmeans ⟨hall,hodd⟩
    have hparsed : Options.parseReadFlag {} value=
        .ok {traceReadFDs := ∅, traceReadFDsNegated := true} := by
      unfold Options.parseReadFlag parseReadWriteFDSet
      rw [parseDescriptorSet_all hall,if_pos hodd]
    have hread := (hmeans.reads _ _ hparsed 0 (by decide)).1
    exact not_denotes_of_negated_all hall hodd 0 (hread.mp (by decide))
  · intro hword
    refine ⟨parseDescriptorSet_error_iff,?_,?_,?_⟩
    · intro opts opts' h fd hfd
      unfold Options.parseReadFlag at h
      cases hparsed : parseReadWriteFDSet value with
      | error message =>
        rw [hparsed] at h
        exact absurd h (by simp)
      | ok parsed =>
        have hlookup := matchTraceFD_of_parseReadWriteFDSet hparsed hword fd
        rw [hparsed] at h
        rw [←Except.ok.inj h]
        exact ⟨hlookup,hlookup,hlookup⟩
    · intro opts opts' h fd hfd
      unfold Options.parseWriteFlag at h
      cases hparsed : parseReadWriteFDSet value with
      | error message =>
        rw [hparsed] at h
        exact absurd h (by simp)
      | ok parsed =>
        have hlookup := matchTraceFD_of_parseReadWriteFDSet hparsed hword fd
        rw [hparsed] at h
        rw [←Except.ok.inj h]
        exact ⟨hlookup,hlookup,hlookup⟩
    · intro opts opts' h fds
      unfold Options.parseTraceFDSet at h
      cases hparsed : parseDescriptorSet value with
      | error message =>
        rw [hparsed] at h
        exact absurd h (by simp)
      | ok parsed =>
        have hlookup := matchTraceFD_iff hparsed hword
        rw [hparsed] at h
        rw [←Except.ok.inj h]
        exact matchFDs_denotes rfl hlookup fds

/-- One exclamation mark before the word for all descriptors leaves every read dumped. -/
theorem negated_all_is_not_its_set : ¬MeansItsSet "!all" := by
  intro hmeans
  have hparsed : Options.parseReadFlag {} "!all"=
      .ok {traceReadFDs := ∅, traceReadFDsNegated := true} := rfl
  have hread := (hmeans.reads _ _ hparsed 0 (by decide)).1
  exact not_denotes_of_negated_all (by decide) (by decide) 0 (hread.mp (by decide))

end Sets

end StraceGo.DescriptorSets

import StraceGo.GoText
import StraceGo.MapVisits
import Mathlib.Algebra.Order.Ring.Int
import Mathlib.Data.List.Perm.Basic

/-!
# Counts and times of the syscalls

The summary keeps for every syscall name its calls, its errors and the total, the
least and the greatest of its processor and wall times, and the names in the order
of their first calls. Its rows are the names, stably sorted by a column; its totals
are gathered in a loop over a map, whose order does not show.
-/

namespace StraceGo.CallSummary

open FiniteMaps GoText MapVisits

section Durations

/-- Total, least and greatest of some durations. -/
structure DurationStat where
  /-- Their sum, as a word. -/
  total : UInt64 := 0
  /-- The least. -/
  minimum : UInt64 := 0
  /-- The greatest. -/
  maximum : UInt64 := 0
  deriving DecidableEq

/-- Add a duration. -/
def DurationStat.record (stat : DurationStat) (duration : UInt64) (first : Bool) :
    DurationStat where
  total := stat.total+duration
  minimum := if first || decide (duration < stat.minimum) then duration else stat.minimum
  maximum := if stat.maximum < duration then duration else stat.maximum

/-- Add the durations of a syscall to those of all syscalls. -/
def mergeSummaryTiming (total timing : DurationStat) (first : Bool) : DurationStat where
  total := total.total+timing.total
  minimum := if first || decide (timing.minimum < total.minimum) then timing.minimum
    else total.minimum
  maximum := if total.maximum < timing.maximum then timing.maximum else total.maximum

/-- What the three numbers say about some durations. -/
structure Measures (stat : DurationStat) (durations : List UInt64) : Prop where
  /-- The total is their sum, as a word. -/
  total : stat.total.toNat=(durations.map UInt64.toNat).sum%2^64
  /-- The minimum is one of them. -/
  minimumMem : durations≠[] → stat.minimum∈durations
  /-- None is less. -/
  minimumLe : ∀ d∈durations, stat.minimum ≤ d
  /-- The maximum is one of them. -/
  maximumMem : durations≠[] → stat.maximum∈durations
  /-- None is greater. -/
  leMaximum : ∀ d∈durations, d ≤ stat.maximum
  /-- Without durations all is zero. -/
  empty : durations=[] → stat={}

theorem measures_nil : Measures {} [] where
  total := rfl
  minimumMem h := absurd rfl h
  minimumLe _ hd := absurd hd List.not_mem_nil
  maximumMem h := absurd rfl h
  leMaximum _ hd := absurd hd List.not_mem_nil
  empty _ := rfl

/-- The order of durations does not matter. -/
theorem Measures.perm {stat : DurationStat} {durations others : List UInt64}
    (h : Measures stat durations) (hperm : durations.Perm others) : Measures stat others where
  total := by rw [h.total,(hperm.map UInt64.toNat).sum_eq]
  minimumMem hne := hperm.mem_iff.mp (h.minimumMem fun hnil => hne (by simpa [hnil] using hperm))
  minimumLe d hd := h.minimumLe d (hperm.mem_iff.mpr hd)
  maximumMem hne := hperm.mem_iff.mp (h.maximumMem fun hnil => hne (by simpa [hnil] using hperm))
  leMaximum d hd := h.leMaximum d (hperm.mem_iff.mpr hd)
  empty hnil := h.empty (by simpa [hnil] using hperm)

/-- Durations are measured by exactly one value. -/
theorem Measures.unique {stat other : DurationStat} {durations : List UInt64}
    (h : Measures stat durations) (hother : Measures other durations) : stat=other := by
  by_cases hne : durations=[]
  · rw [h.empty hne,hother.empty hne]
  · have htotal : stat.total=other.total := UInt64.toNat.inj (h.total.trans hother.total.symm)
    have hminimum : stat.minimum=other.minimum :=
      UInt64.le_antisymm (h.minimumLe _ (hother.minimumMem hne))
        (hother.minimumLe _ (h.minimumMem hne))
    have hmaximum : stat.maximum=other.maximum :=
      UInt64.le_antisymm (hother.leMaximum _ (h.maximumMem hne))
        (h.leMaximum _ (hother.maximumMem hne))
    cases stat
    cases other
    simp_all

/-- Two groups of durations are measured by their merged numbers. -/
theorem Measures.merge {total timing : DurationStat} {durations others : List UInt64}
    (htotal : Measures total durations) (htiming : Measures timing others)
    (hothers : others≠[]) {first : Bool} (hfirst : first=true ↔ durations=[]) :
    Measures (mergeSummaryTiming total timing first) (durations ++ others) := by
  have hmin : (mergeSummaryTiming total timing first).minimum=
      if first=true ∨ timing.minimum < total.minimum then timing.minimum
      else total.minimum := by
    simp [mergeSummaryTiming]
  have hmax : (mergeSummaryTiming total timing first).maximum=
      if total.maximum < timing.maximum then timing.maximum else total.maximum := rfl
  constructor
  · change (total.total+timing.total).toNat=_
    rw [UInt64.toNat_add,htotal.total,htiming.total,List.map_append,List.sum_append]
    omega
  · intro _
    rw [hmin,List.mem_append]
    split_ifs with h
    · exact .inr (htiming.minimumMem hothers)
    · exact .inl (htotal.minimumMem fun hnil => h (.inl (hfirst.mpr hnil)))
  · intro d hd
    rw [hmin]
    rcases List.mem_append.mp hd with hd | hd
    · have hle := htotal.minimumLe d hd
      split_ifs with h
      · rcases h with h | h
        · rw [hfirst.mp h] at hd
          exact absurd hd List.not_mem_nil
        · exact UInt64.le_trans (UInt64.le_of_lt h) hle
      · exact hle
    · have hle := htiming.minimumLe d hd
      split_ifs with h
      · exact hle
      · exact UInt64.le_trans (UInt64.not_lt.mp fun hlt => h (.inr hlt)) hle
  · intro _
    rw [hmax,List.mem_append]
    split_ifs with h
    · exact .inr (htiming.maximumMem hothers)
    · by_cases hnil : durations=[]
      · have hzero : timing.maximum=0 := by
          rw [htotal.empty hnil] at h
          exact UInt64.le_antisymm (UInt64.not_lt.mp h) (UInt64.zero_le)
        rw [htotal.empty hnil]
        have hmem := htiming.maximumMem hothers
        rw [hzero] at hmem
        exact .inr hmem
      · exact .inl (htotal.maximumMem hnil)
  · intro d hd
    rw [hmax]
    rcases List.mem_append.mp hd with hd | hd
    · have hle := htotal.leMaximum d hd
      split_ifs with h
      · exact UInt64.le_trans hle (UInt64.le_of_lt h)
      · exact hle
    · have hle := htiming.leMaximum d hd
      split_ifs with h
      · exact hle
      · exact UInt64.le_trans hle (UInt64.not_lt.mp h)
  · exact fun hnil => absurd (List.append_eq_nil_iff.mp hnil).2 hothers

theorem measures_singleton (d : UInt64) : Measures ⟨d,d,d⟩ [d] := by
  constructor
  · have hlt := d.toNat_lt
    rw [List.map_singleton,List.sum_singleton]
    exact (Nat.mod_eq_of_lt hlt).symm
  · exact fun _ => List.mem_singleton_self d
  · exact fun e he => by rw [List.mem_singleton.mp he]; exact UInt64.le_refl d
  · exact fun _ => List.mem_singleton_self d
  · exact fun e he => by rw [List.mem_singleton.mp he]; exact UInt64.le_refl d
  · exact fun hnil => absurd hnil (List.cons_ne_nil _ _)

/-- Recording a duration is merging with it alone. -/
theorem record_eq_merge (stat : DurationStat) (duration : UInt64) (first : Bool) :
    stat.record duration first=mergeSummaryTiming stat ⟨duration,duration,duration⟩ first := rfl

theorem Measures.record {stat : DurationStat} {durations : List UInt64}
    (h : Measures stat durations) (duration : UInt64) {first : Bool}
    (hfirst : first=true ↔ durations=[]) :
    Measures (stat.record duration first) (durations ++ [duration]) := by
  rw [record_eq_merge]
  exact h.merge (measures_singleton duration) (List.cons_ne_nil _ _) hfirst

end Durations

section Options

/-- Columns of the summary. -/
inductive SummaryColumn where
  | none
  | timePercent
  | totalTime
  | minTime
  | maxTime
  | avgTime
  | calls
  | errors
  | name
  | wallTotal
  | wallMin
  | wallMax
  | wallAvg
  deriving DecidableEq

/-- What the summary shows and how it is sorted. -/
structure SummaryOptions where
  /-- Column that sorts the rows. -/
  sortBy : SummaryColumn
  /-- Columns from left to right. -/
  columns : List SummaryColumn
  /-- Whether the main times are wall times. -/
  wallClock : Bool := false

def defaultSummaryOptions : SummaryOptions where
  sortBy := .totalTime
  columns := [.timePercent,.totalTime,.avgTime,.calls,.errors,.name]

/-- Column of a name in its canonical form. -/
def summaryColumnFromName (name : String) : SummaryColumn :=
  if name="time-percent" then .timePercent
  else if name="total-time" then .totalTime
  else if name="min-time" then .minTime
  else if name="max-time" then .maxTime
  else if name="avg-time" then .avgTime
  else if name="calls" then .calls
  else if name="errors" then .errors
  else if name="name" then .name
  else if name="wall-total" then .wallTotal
  else if name="wall-min" then .wallMin
  else if name="wall-max" then .wallMax
  else if name="wall-avg" then .wallAvg
  else .none

/-- Options for a sort column and some columns; the name is always shown. -/
def newSummaryOptions (sortBy : String) (columnNames : List String) (wallClock : Bool) :
    SummaryOptions :=
  let options := {defaultSummaryOptions with wallClock := wallClock}
  let options := if sortBy≠"" then {options with sortBy := summaryColumnFromName sortBy}
    else options
  if columnNames=[] then options
  else
    let columns := columnNames.map summaryColumnFromName
    {options with
      columns := if columns.contains .name then columns else columns ++ [.name]}

end Options

section Records

/-- A completed syscall, as the summary sees it. -/
structure SyscallRecord where
  /-- Name of the syscall. -/
  name : String
  /-- Processor time it took. -/
  cpuDuration : UInt64
  /-- Wall time it took. -/
  wallDuration : UInt64
  /-- Its result. -/
  ret : Int64

/-- Whether a result is an error number. -/
def SyscallRecord.failed (r : SyscallRecord) : Bool :=
  decide (r.ret.toInt < 0) && decide (-4095 ≤ r.ret.toInt)

/-- Numbers of one syscall. -/
structure SyscallStat where
  /-- Its calls. -/
  calls : ℕ := 0
  /-- Its calls that failed. -/
  errors : ℕ := 0
  /-- Processor times. -/
  cpu : DurationStat := {}
  /-- Wall times. -/
  wall : DurationStat := {}

/-- The summary. -/
structure SummaryStats where
  /-- Numbers of each syscall. -/
  stats : GoMap String SyscallStat := ∅
  /-- Names in the order of their first calls. -/
  order : List String := []
  /-- What is shown. -/
  options : SummaryOptions

/-- A summary with given options; without columns the defaults are taken. -/
def newConfiguredSummaryStats (options : SummaryOptions) : SummaryStats where
  options := if options.columns=[] then defaultSummaryOptions else options

/-- Add a call. -/
def SyscallStat.record (stat : SyscallStat) (r : SyscallRecord) : SyscallStat :=
  let first := decide (stat.calls=0)
  {calls := stat.calls+1
   errors := if r.failed then stat.errors+1 else stat.errors
   cpu := stat.cpu.record r.cpuDuration first
   wall := stat.wall.record r.wallDuration first}

/-- Add a call to its syscall, which is new at its first call. -/
def SummaryStats.record (st : SummaryStats) (r : SyscallRecord) : SummaryStats :=
  match st.stats.lookup r.name with
  | some stat => {st with stats := st.stats.insert r.name (stat.record r)}
  | none =>
    {st with
      stats := st.stats.insert r.name (({} : SyscallStat).record r)
      order := st.order ++ [r.name]}

/-- Numbers of all syscalls. -/
structure SummaryTotals where
  /-- All calls. -/
  calls : ℕ := 0
  /-- All calls that failed. -/
  errors : ℕ := 0
  /-- Processor times. -/
  cpu : DurationStat := {}
  /-- Wall times. -/
  wall : DurationStat := {}

/-- Add the numbers of one syscall; the flag tells the first step of the loop. -/
def totalsStep (m : GoMap String SyscallStat) (state : SummaryTotals×Bool) (name : String) :
    SummaryTotals×Bool :=
  match m.lookup name with
  | none => state
  | some stat =>
    let (totals,first) := state
    ({calls := totals.calls+stat.calls
      errors := totals.errors+stat.errors
      cpu := mergeSummaryTiming totals.cpu stat.cpu first
      wall := mergeSummaryTiming totals.wall stat.wall first},false)

/-- Totals, gathered in the order of a visit of the map. -/
def SummaryStats.summaryTotals (st : SummaryStats) (visit : Visit String SyscallStat) :
    SummaryTotals :=
  ((visit.order st.stats).foldl (totalsStep st.stats) ({},true)).1

end Records

section Rows

/-- A row of the summary. -/
structure SummaryStatEntry where
  /-- Name of the syscall. -/
  name : String
  /-- Its numbers. -/
  stat : SyscallStat

/-- Whether a column is about wall times by its name. -/
def SummaryColumn.isWall : SummaryColumn → Bool
  | .wallTotal | .wallMin | .wallMax | .wallAvg => true
  | _ => false

/-- Mean duration. -/
def summaryAverage (timing : DurationStat) (calls : ℕ) : UInt64 :=
  if calls=0 then 0 else timing.total/UInt64.ofNat calls

namespace SummaryStats

variable (st : SummaryStats)

def primaryTiming (stat : SyscallStat) : DurationStat :=
  if st.options.wallClock then stat.wall else stat.cpu

/-- Times a column is about. -/
def timingForColumn (stat : SyscallStat) (column : SummaryColumn) : DurationStat :=
  if column.isWall then stat.wall else st.primaryTiming stat

/-- Whether a row comes before another one. -/
def entryLess (left right : SummaryStatEntry) : Bool :=
  let column := st.options.sortBy
  let leftTiming := st.timingForColumn left.stat column
  let rightTiming := st.timingForColumn right.stat column
  match column with
  | .name => textLess left.name.toList right.name.toList
  | .calls => decide (right.stat.calls < left.stat.calls)
  | .errors => decide (right.stat.errors < left.stat.errors)
  | .minTime | .wallMin => decide (rightTiming.minimum < leftTiming.minimum)
  | .maxTime | .wallMax => decide (rightTiming.maximum < leftTiming.maximum)
  | .avgTime | .wallAvg =>
    decide (summaryAverage rightTiming right.stat.calls <
      summaryAverage leftTiming left.stat.calls)
  | _ => decide (rightTiming.total < leftTiming.total)

/-- Rows in the order of the first calls; every name of the order has numbers. -/
def firstEntries : List SummaryStatEntry :=
  st.order.map fun name => {name := name, stat := (st.stats.lookup name).getD {}}

/-- Rows, stably sorted by their column. -/
def sortedEntries : List SummaryStatEntry :=
  if st.options.sortBy=.none then st.firstEntries
  else st.firstEntries.mergeSort fun left right => !st.entryLess right left

end SummaryStats

end Rows

section Accounting

/-- Calls of one syscall. -/
def recordsOf (name : String) (records : List SyscallRecord) : List SyscallRecord :=
  records.filter fun r => r.name=name

/-- What the numbers of a syscall say about some calls. -/
structure Counts (stat : SyscallStat) (records : List SyscallRecord) : Prop where
  /-- Every call is counted. -/
  calls : stat.calls=records.length
  /-- Every failed call is counted. -/
  errors : stat.errors=records.countP SyscallRecord.failed
  /-- Processor times are measured. -/
  cpu : Measures stat.cpu (records.map (·.cpuDuration))
  /-- Wall times are measured. -/
  wall : Measures stat.wall (records.map (·.wallDuration))

theorem counts_nil : Counts {} [] := ⟨rfl,rfl,measures_nil,measures_nil⟩

/-- A further call is added to every number. -/
theorem Counts.record {stat : SyscallStat} {records : List SyscallRecord}
    (h : Counts stat records) (r : SyscallRecord) :
    Counts (stat.record r) (records ++ [r]) := by
  have hfirst : ∀ f : SyscallRecord → UInt64,
      (decide (stat.calls=0)=true ↔ records.map f=[]) := by
    intro f
    rw [decide_eq_true_iff,h.calls,List.length_eq_zero_iff,List.map_eq_nil_iff]
  constructor
  · rw [List.length_append,List.length_singleton,←h.calls]
    rfl
  · rw [List.countP_append,List.countP_singleton,←h.errors]
    change (if r.failed then stat.errors+1 else stat.errors)=_
    split_ifs
    · rfl
    · rfl
  · rw [List.map_append]
    exact h.cpu.record r.cpuDuration (hfirst _)
  · rw [List.map_append]
    exact h.wall.record r.wallDuration (hfirst _)

/-- Record calls in their order. -/
def SummaryStats.run (st : SummaryStats) (records : List SyscallRecord) : SummaryStats :=
  records.foldl SummaryStats.record st

/-- What a summary says about the calls so far. -/
structure Accounts (st : SummaryStats) (records : List SyscallRecord) : Prop where
  /-- Exactly the syscalls that were called have numbers. -/
  absent : ∀ name, st.stats.lookup name=none ↔ recordsOf name records=[]
  /-- The numbers count their calls. -/
  counts : ∀ name stat, st.stats.lookup name=some stat → Counts stat (recordsOf name records)
  /-- The order lists the names by their first calls. -/
  order : st.order=(records.map (·.name)).eraseDups
  /-- It lists them once. -/
  nodup : st.order.Nodup
  /-- It lists the names that were called. -/
  mem : ∀ name, name∈st.order ↔ recordsOf name records≠[]

theorem recordsOf_append (name : String) (records more : List SyscallRecord) :
    recordsOf name (records ++ more)=recordsOf name records ++ recordsOf name more :=
  List.filter_append _ _

theorem recordsOf_self (r : SyscallRecord) : recordsOf r.name [r]=[r] := by
  simp [recordsOf]

theorem recordsOf_other {name : String} {r : SyscallRecord} (h : name≠r.name) :
    recordsOf name [r]=[] := by
  have hother : ¬r.name=name := fun heq => h heq.symm
  simp [recordsOf,hother]

variable {st : SummaryStats} {records : List SyscallRecord}

/-- A further call is accounted for. -/
theorem Accounts.record (h : Accounts st records) (r : SyscallRecord) :
    Accounts (st.record r) (records ++ [r]) := by
  have hother : ∀ name, name≠r.name → recordsOf name (records ++ [r])=recordsOf name records := by
    intro name hname
    rw [recordsOf_append,recordsOf_other hname,List.append_nil]
  have hself : recordsOf r.name (records ++ [r])=recordsOf r.name records ++ [r] := by
    rw [recordsOf_append,recordsOf_self]
  have hnotNil : recordsOf r.name records ++ [r]≠[] :=
    List.append_ne_nil_of_right_ne_nil _ (List.cons_ne_nil _ _)
  have hlookup : ∃ stat, Counts stat (recordsOf r.name records ++ [r]) ∧
      (st.record r).stats=st.stats.insert r.name stat := by
    unfold SummaryStats.record
    cases hstat : st.stats.lookup r.name with
    | some stat => exact ⟨_,(h.counts r.name stat hstat).record r,rfl⟩
    | none =>
      rw [(h.absent r.name).mp hstat]
      exact ⟨_,counts_nil.record r,rfl⟩
  obtain ⟨stat,hcounts,hstats⟩ := hlookup
  have hcalled : r.name∈records.map (·.name) ↔ recordsOf r.name records≠[] := by
    unfold recordsOf
    rw [Ne,List.filter_eq_nil_iff,List.mem_map]
    simp
  refine ⟨fun name => ?_,fun name found hfound => ?_,?_,?_,fun name => ?_⟩
  · rw [hstats,lookup_insert_ite]
    split_ifs with hname
    · rw [hname,hself]
      exact ⟨fun hnone => hnone.elim,fun hnil => absurd hnil hnotNil⟩
    · rw [hother name hname]
      exact h.absent name
  · rw [hstats,lookup_insert_ite] at hfound
    split_ifs at hfound with hname
    · cases hfound
      rw [hname,hself]
      exact hcounts
    · rw [hother name hname]
      exact h.counts name found hfound
  · rw [List.map_append,List.map_singleton,List.eraseDups_append,←h.order]
    unfold SummaryStats.record
    cases hstat : st.stats.lookup r.name with
    | some stat =>
      have hmem : r.name∈records.map (·.name) := hcalled.mpr fun hnil =>
        absurd (((h.absent _).mpr hnil).symm.trans hstat).symm (Option.some_ne_none stat)
      have hremoved : [r.name].removeAll (records.map (·.name))=[] := by
        simp only [List.removeAll,List.filter_cons]
        simp [hmem]
      rw [hremoved,List.eraseDups_nil,List.append_nil]
    | none =>
      have hnotMem : r.name∉records.map (·.name) := fun hmem =>
        hcalled.mp hmem ((h.absent _).mp hstat)
      have hkept : [r.name].removeAll (records.map (·.name))=[r.name] := by
        simp only [List.removeAll,List.filter_cons]
        simp [hnotMem]
      rw [hkept]
      rfl
  · unfold SummaryStats.record
    cases hstat : st.stats.lookup r.name with
    | some stat => exact h.nodup
    | none =>
      refine List.nodup_append.mpr ⟨h.nodup,List.nodup_singleton _,fun name hname other hmem => ?_⟩
      rw [List.mem_singleton.mp hmem]
      rintro rfl
      exact (h.mem _).mp hname ((h.absent _).mp hstat)
  · have horder : name∈(st.record r).order ↔ name=r.name ∨ name∈st.order := by
      unfold SummaryStats.record
      cases hstat : st.stats.lookup r.name with
      | some stat =>
        constructor
        · exact .inr
        · rintro (rfl | hmem)
          · exact (h.mem _).mpr fun hnil =>
              absurd (((h.absent _).mpr hnil).symm.trans hstat).symm (Option.some_ne_none stat)
          · exact hmem
      | none =>
        change name∈st.order ++ [r.name] ↔ _
        rw [List.mem_append,List.mem_singleton,or_comm]
    rw [horder]
    by_cases hname : name=r.name
    · rw [hname,hself]
      exact ⟨fun _ => hnotNil,fun _ => .inl rfl⟩
    · rw [hother name hname,←h.mem name]
      exact ⟨fun hmem => hmem.resolve_left hname,.inr⟩

/-- A run accounts for all its calls. -/
theorem accounts_run (h : Accounts st records) (more : List SyscallRecord) :
    Accounts (st.run more) (records ++ more) := by
  induction more generalizing st records with
  | nil =>
    rw [List.append_nil]
    exact h
  | cons r more ih =>
    have hrest := ih (h.record r)
    rw [List.append_assoc] at hrest
    exact hrest

theorem accounts_new (options : SummaryOptions) :
    Accounts (newConfiguredSummaryStats options) [] where
  absent name := ⟨fun _ => rfl,fun _ => Finmap.lookup_empty name⟩
  counts name stat hlookup := by
    have hnone : (∅ : GoMap String SyscallStat).lookup name=none := Finmap.lookup_empty name
    exact absurd (hlookup.symm.trans hnone) (Option.some_ne_none stat)
  order := rfl
  nodup := List.nodup_nil
  mem _ := ⟨fun hmem => absurd hmem List.not_mem_nil,fun h => absurd rfl h⟩

end Accounting

section Totals

theorem Counts.perm {stat : SyscallStat} {records others : List SyscallRecord}
    (h : Counts stat records) (hperm : records.Perm others) : Counts stat others where
  calls := h.calls.trans hperm.length_eq
  errors := h.errors.trans (hperm.countP_eq _)
  cpu := h.cpu.perm (hperm.map _)
  wall := h.wall.perm (hperm.map _)

/-- Calls are counted by exactly one value. -/
theorem Counts.unique {stat other : SyscallStat} {records : List SyscallRecord}
    (h : Counts stat records) (hother : Counts other records) : stat=other := by
  have hcalls := h.calls.trans hother.calls.symm
  have herrors := h.errors.trans hother.errors.symm
  have hcpu := h.cpu.unique hother.cpu
  have hwall := h.wall.unique hother.wall
  cases stat
  cases other
  simp_all

/-- The totals as the numbers of one syscall. -/
def SummaryTotals.asStat (totals : SummaryTotals) : SyscallStat where
  calls := totals.calls
  errors := totals.errors
  cpu := totals.cpu
  wall := totals.wall

/-- Grouping calls by their names loses none and doubles none. -/
theorem flatMap_recordsOf_perm {names : List String} (hnodup : names.Nodup)
    {records : List SyscallRecord} (hcovers : ∀ r∈records, r.name∈names) :
    (names.flatMap fun name => recordsOf name records).Perm records := by
  induction names generalizing records with
  | nil =>
    have hnil : records=[] := List.eq_nil_iff_forall_not_mem.mpr fun r hr =>
      absurd (hcovers r hr) List.not_mem_nil
    rw [hnil]
    exact List.Perm.nil
  | cons name names ih =>
    obtain ⟨hnotMem,hrest⟩ := List.nodup_cons.mp hnodup
    have hsplit : (recordsOf name records ++
        records.filter fun r => !decide (r.name=name)).Perm records :=
      List.filter_append_perm _ _
    have hsame : (names.flatMap fun other => recordsOf other records)=
        names.flatMap fun other =>
          recordsOf other (records.filter fun r => !decide (r.name=name)) := by
      apply List.flatMap_congr
      intro other hmem
      unfold recordsOf
      rw [List.filter_filter]
      apply List.filter_congr
      intro r _
      by_cases hr : r.name=other
      · have hne : ¬r.name=name := fun heq => hnotMem (heq ▸ hr ▸ hmem)
        simp [hr ▸ hne,hr]
      · simp [hr]
    have hin : ∀ r∈records.filter (fun r => !decide (r.name=name)), r.name∈names := by
      intro r hr
      obtain ⟨hmem,hne⟩ := List.mem_filter.mp hr
      rcases List.mem_cons.mp (hcovers r hmem) with heq | hin
      · rw [decide_eq_true heq] at hne
        exact absurd hne Bool.false_ne_true
      · exact hin
    have hothers := ih hrest hin
    rw [List.flatMap_cons,hsame]
    exact (hothers.append_left _).trans hsplit

/-- The loop over the map adds the calls of the names it has visited. -/
theorem foldl_totalsStep {st : SummaryStats} {records : List SyscallRecord}
    (h : Accounts st records) (names : List String)
    (hnames : ∀ name∈names, recordsOf name records≠[]) (state : SummaryTotals×Bool)
    {visited : List SyscallRecord} (hstate : Counts state.1.asStat visited)
    (hfirst : state.2=true ↔ visited=[]) :
    Counts (names.foldl (totalsStep st.stats) state).1.asStat
      (visited ++ names.flatMap fun name => recordsOf name records) := by
  induction names generalizing state visited with
  | nil =>
    rw [List.flatMap_nil,List.append_nil]
    exact hstate
  | cons name names ih =>
    have hne : recordsOf name records≠[] := hnames name List.mem_cons_self
    obtain ⟨stat,hstat⟩ : ∃ stat, st.stats.lookup name=some stat :=
      Option.ne_none_iff_exists'.mp fun hnone => hne ((h.absent name).mp hnone)
    have hcounts := h.counts name stat hstat
    have hstep : totalsStep st.stats state name=
        ({calls := state.1.calls+stat.calls
          errors := state.1.errors+stat.errors
          cpu := mergeSummaryTiming state.1.cpu stat.cpu state.2
          wall := mergeSummaryTiming state.1.wall stat.wall state.2},false) := by
      unfold totalsStep
      rw [hstat]
    have hmap : ∀ f : SyscallRecord → UInt64, (recordsOf name records).map f≠[] :=
      fun f hnil => hne (List.map_eq_nil_iff.mp hnil)
    have hflag : ∀ f : SyscallRecord → UInt64, (state.2=true ↔ visited.map f=[]) :=
      fun f => hfirst.trans List.map_eq_nil_iff.symm
    have hnext : Counts (totalsStep st.stats state name).1.asStat
        (visited ++ recordsOf name records) := by
      rw [hstep]
      constructor
      · rw [List.length_append,←hcounts.calls]
        exact congrArg (·+stat.calls) hstate.calls
      · rw [List.countP_append,←hcounts.errors]
        exact congrArg (·+stat.errors) hstate.errors
      · rw [List.map_append]
        exact hstate.cpu.merge hcounts.cpu (hmap _) (hflag _)
      · rw [List.map_append]
        exact hstate.wall.merge hcounts.wall (hmap _) (hflag _)
    have hnotFirst : (totalsStep st.stats state name).2=true ↔
        visited ++ recordsOf name records=[] := by
      rw [hstep]
      exact ⟨fun hfalse => absurd hfalse Bool.false_ne_true,
        fun hnil => absurd (List.append_eq_nil_iff.mp hnil).2 hne⟩
    have hrest := ih (fun other hmem => hnames other (List.mem_cons_of_mem _ hmem)) _ hnext
      hnotFirst
    rw [List.append_assoc] at hrest
    exact hrest

/-- The totals count all calls, whatever order the map is visited in. -/
theorem Accounts.summaryTotals {st : SummaryStats} {records : List SyscallRecord}
    (h : Accounts st records) (visit : Visit String SyscallStat) :
    Counts (st.summaryTotals visit).asStat records := by
  obtain ⟨hnodup,hmem⟩ := visit.enumerates st.stats
  have hkeys : ∀ name, name∈visit.order st.stats ↔ recordsOf name records≠[] := by
    intro name
    rw [hmem,Ne,←h.absent name,Finmap.lookup_eq_none,not_not]
  have hloop := foldl_totalsStep h (visit.order st.stats)
    (fun name hname => (hkeys name).mp hname) ({},true) counts_nil ⟨fun _ => rfl,fun _ => rfl⟩
  rw [List.nil_append] at hloop
  apply hloop.perm
  apply flatMap_recordsOf_perm hnodup
  intro r hr
  rw [hkeys]
  intro hnil
  have hin : r∈recordsOf r.name records := List.mem_filter.mpr ⟨hr,decide_eq_true rfl⟩
  rw [hnil] at hin
  exact absurd hin List.not_mem_nil

end Totals

section Sorting

variable (st : SummaryStats)

/-- A sort by name compares names; every other sort compares numbers, the greater first. -/
theorem entryLess_cases :
    (∀ left right, st.entryLess left right=textLess left.name.toList right.name.toList) ∨
      ∃ rank : SummaryStatEntry → ℕ, ∀ left right,
        st.entryLess left right=decide (rank right < rank left) := by
  unfold SummaryStats.entryLess
  cases st.options.sortBy with
  | name => exact .inl fun _ _ => rfl
  | calls => exact .inr ⟨fun e => e.stat.calls,fun _ _ => rfl⟩
  | errors => exact .inr ⟨fun e => e.stat.errors,fun _ _ => rfl⟩
  | minTime => exact .inr ⟨fun e => (st.timingForColumn e.stat .minTime).minimum.toNat,
      fun _ _ => rfl⟩
  | wallMin => exact .inr ⟨fun e => (st.timingForColumn e.stat .wallMin).minimum.toNat,
      fun _ _ => rfl⟩
  | maxTime => exact .inr ⟨fun e => (st.timingForColumn e.stat .maxTime).maximum.toNat,
      fun _ _ => rfl⟩
  | wallMax => exact .inr ⟨fun e => (st.timingForColumn e.stat .wallMax).maximum.toNat,
      fun _ _ => rfl⟩
  | avgTime => exact .inr ⟨fun e =>
      (summaryAverage (st.timingForColumn e.stat .avgTime) e.stat.calls).toNat,fun _ _ => rfl⟩
  | wallAvg => exact .inr ⟨fun e =>
      (summaryAverage (st.timingForColumn e.stat .wallAvg) e.stat.calls).toNat,fun _ _ => rfl⟩
  | none => exact .inr ⟨fun e => (st.timingForColumn e.stat .none).total.toNat,fun _ _ => rfl⟩
  | timePercent => exact .inr ⟨fun e => (st.timingForColumn e.stat .timePercent).total.toNat,
      fun _ _ => rfl⟩
  | totalTime => exact .inr ⟨fun e => (st.timingForColumn e.stat .totalTime).total.toNat,
      fun _ _ => rfl⟩
  | wallTotal => exact .inr ⟨fun e => (st.timingForColumn e.stat .wallTotal).total.toNat,
      fun _ _ => rfl⟩

theorem entryLess_total (left right : SummaryStatEntry) :
    (!st.entryLess right left || !st.entryLess left right)=true := by
  rcases entryLess_cases st with hname | ⟨rank,hrank⟩
  · rw [hname,hname]
    rcases textLess_total right.name.toList left.name.toList with h | h
    · rw [h]
      rfl
    · rw [h,Bool.not_false,Bool.or_true]
  · simp only [hrank,Bool.or_eq_true,Bool.not_eq_true',decide_eq_false_iff_not]
    omega

theorem entryLess_trans (a b c : SummaryStatEntry) (hab : (!st.entryLess b a)=true)
    (hbc : (!st.entryLess c b)=true) : (!st.entryLess c a)=true := by
  rcases entryLess_cases st with hname | ⟨rank,hrank⟩
  · simp only [hname,Bool.not_eq_true'] at hab hbc ⊢
    exact textLess_trans hab hbc
  · simp only [hrank,Bool.not_eq_true',decide_eq_false_iff_not] at hab hbc ⊢
    omega

/-- The rows are those of the first calls. -/
theorem sortedEntries_perm : st.sortedEntries.Perm st.firstEntries := by
  unfold SummaryStats.sortedEntries
  split_ifs with hnone
  · exact List.Perm.refl _
  · exact List.mergeSort_perm _ _

/-- A sort column sorts the rows. -/
theorem sortedEntries_sorted (h : st.options.sortBy≠.none) :
    st.sortedEntries.Pairwise fun left right => st.entryLess right left=false := by
  unfold SummaryStats.sortedEntries
  rw [if_neg h]
  have hsorted := List.pairwise_mergeSort (entryLess_trans st) (entryLess_total st) st.firstEntries
  exact hsorted.imp fun hle => by rwa [Bool.not_eq_true'] at hle

/-- Rows that the sort column does not separate stay in the order of their first calls. -/
theorem sortedEntries_stable {left right : SummaryStatEntry}
    (hfirst : [left,right].Sublist st.firstEntries) (hless : st.entryLess right left=false) :
    [left,right].Sublist st.sortedEntries := by
  unfold SummaryStats.sortedEntries
  split_ifs with hnone
  · exact hfirst
  · exact List.pair_sublist_mergeSort (entryLess_trans st) (entryLess_total st)
      (by rw [hless]; rfl) hfirst

end Sorting

end StraceGo.CallSummary

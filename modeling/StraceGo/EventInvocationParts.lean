import StraceGo.EventPayloadStorage

/-!
# Parts of an invocation after a loss

After a loss the session identifies an invocation by its start time and its
arguments. A generic enter starts the invocation over, and a partial record
joins it only if it is stamped with the same time. What is remembered of a
sequence of records therefore depends on its last generic enter alone and on
the partial records behind it.
-/

namespace StraceGo.EventInvocationParts

open EventEnvelope EventPayloadStorage

section Merging

/-- Whether two sections describe one object of the traced process. -/
def equivalentSections (stored want : PayloadSection) : Bool :=
  stored.kind==want.kind && stored.direction==want.direction &&
    stored.argIndex==want.argIndex && stored.userPtr==want.userPtr &&
    nestedFDPathIdentityMatches stored want

theorem equivalentSections_trans {a b c : PayloadSection} (hab : equivalentSections a b=true)
    (hbc : equivalentSections b c=true) : equivalentSections a c=true := by
  unfold equivalentSections nestedFDPathIdentityMatches at *
  simp only [Bool.and_eq_true,beq_iff_eq] at *
  obtain ⟨⟨⟨⟨hkind,hdirection⟩,harg⟩,hptr⟩,hnested⟩ := hab
  obtain ⟨⟨⟨⟨hkind',hdirection'⟩,harg'⟩,hptr'⟩,hnested'⟩ := hbc
  refine ⟨⟨⟨⟨hkind.trans hkind',hdirection.trans hdirection'⟩,harg.trans harg'⟩,
    hptr.trans hptr'⟩,?_⟩
  by_cases hplain : a.kind≠.fdPath ∨ a.argIndex≠payloadFDPathNestedArgIndex
  · rw [if_pos hplain]
  · have hplain' : ¬(b.kind≠.fdPath ∨ b.argIndex≠payloadFDPathNestedArgIndex) := by
      rw [←hkind,←harg]
      exact hplain
    rw [if_neg hplain] at hnested ⊢
    rw [if_neg hplain'] at hnested'
    rw [beq_iff_eq] at *
    exact hnested.trans hnested'

theorem hasEquivalent_iff (sections : List PayloadSection) (want : PayloadSection) :
    hasEquivalentPayloadSection sections want=true ↔
      ∃ stored∈sections, equivalentSections stored want=true :=
  List.any_eq_true

/-- A section that repeats a stored one adds nothing to what the list describes. -/
theorem hasEquivalent_repeated {stored before : List PayloadSection} {p s : PayloadSection}
    (h : hasEquivalentPayloadSection stored p=true) :
    hasEquivalentPayloadSection (stored ++ p::before) s=
      hasEquivalentPayloadSection (stored ++ before) s := by
  rw [Bool.eq_iff_iff,hasEquivalent_iff,hasEquivalent_iff]
  constructor
  · rintro ⟨q,hq,hequiv⟩
    rw [List.mem_append,List.mem_cons] at hq
    rcases hq with hq | rfl | hq
    · exact ⟨q,List.mem_append_left _ hq,hequiv⟩
    · obtain ⟨r,hr,hrq⟩ := (hasEquivalent_iff stored q).mp h
      exact ⟨r,List.mem_append_left _ hr,equivalentSections_trans hrq hequiv⟩
    · exact ⟨q,List.mem_append_right _ hq,hequiv⟩
  · rintro ⟨q,hq,hequiv⟩
    refine ⟨q,?_,hequiv⟩
    rw [List.mem_append] at hq
    exact List.mem_append.mpr (hq.imp_right (List.mem_cons_of_mem p))

/-- A section is first in a list behind stored ones: none of these describes its object. -/
def FirstOf (stored next : List PayloadSection) (s : PayloadSection) : Prop :=
  ∃ before after, next=before ++ s::after ∧
    hasEquivalentPayloadSection (stored ++ before) s=false

theorem firstOf_cons {stored next : List PayloadSection} {p s : PayloadSection} :
    FirstOf stored (p::next) s ↔
      s=p ∧ hasEquivalentPayloadSection stored s=false ∨ FirstOf (stored ++ [p]) next s := by
  constructor
  · rintro ⟨before,after,heq,hnone⟩
    cases before with
    | nil =>
      rw [List.nil_append,List.cons.injEq] at heq
      rw [List.append_nil] at hnone
      exact Or.inl ⟨heq.1.symm,hnone⟩
    | cons q before =>
      rw [List.cons_append,List.cons.injEq] at heq
      rw [←heq.1] at hnone
      exact Or.inr ⟨before,after,heq.2,by rwa [List.append_assoc]⟩
  · rintro (⟨rfl,hnone⟩ | ⟨before,after,rfl,hnone⟩)
    · exact ⟨[],next,rfl,by rwa [List.append_nil]⟩
    · exact ⟨p::before,after,rfl,by rwa [List.append_assoc] at hnone⟩

/-- Merging keeps the stored sections and adds the first ones of their objects. -/
theorem mem_mergeSections {stored next : List PayloadSection} {s : PayloadSection} :
    s∈mergeSections stored next ↔ s∈stored ∨ FirstOf stored next s := by
  unfold mergeSections
  induction next generalizing stored with
  | nil =>
    have hnone : ¬FirstOf stored [] s := by
      rintro ⟨before,after,heq,-⟩
      exact absurd heq.symm (List.append_ne_nil_of_right_ne_nil _ (List.cons_ne_nil _ _))
    simp [hnone]
  | cons p next ih =>
    rw [List.foldl_cons,ih,firstOf_cons]
    by_cases hstored : hasEquivalentPayloadSection stored p=true
    · have hsame : FirstOf (stored ++ [p]) next s ↔ FirstOf stored next s := by
        unfold FirstOf
        refine exists_congr fun before => exists_congr fun after => and_congr_right fun _ => ?_
        rw [List.append_assoc,List.singleton_append,hasEquivalent_repeated hstored]
      rw [if_pos hstored,hsame]
      constructor
      · exact fun h => h.imp_right Or.inr
      · rintro (h | ⟨rfl,hnone⟩ | h)
        · exact Or.inl h
        · rw [hstored] at hnone
          exact Bool.noConfusion hnone
        · exact Or.inr h
    · rw [if_neg hstored,List.mem_append,List.mem_singleton]
      rw [Bool.not_eq_true] at hstored
      constructor
      · rintro ((h | rfl) | h)
        · exact Or.inl h
        · exact Or.inr (Or.inl ⟨rfl,hstored⟩)
        · exact Or.inr (Or.inr h)
      · rintro (h | ⟨rfl,-⟩ | h)
        · exact Or.inl (Or.inl h)
        · exact Or.inl (Or.inr rfl)
        · exact Or.inr h

theorem mergeSections_append (stored first second : List PayloadSection) :
    mergeSections (mergeSections stored first) second=mergeSections stored (first ++ second) :=
  List.foldl_append.symm

end Merging

section Parts

/-- What the session reads of one record of an invocation. -/
structure Part where
  /-- Whether the record is a generic enter. -/
  generic : Bool
  /-- Start time it is stamped with. -/
  time : UInt64
  /-- Its sections. -/
  sections : List PayloadSection

/-- Part that a record is. -/
def partOf (record : TraceEventEnvelope) : Part :=
  ⟨record.syscallView.isGenericEnter,record.enterTime,record.payload⟩

/-- Start time and sections remembered after a record. -/
def absorb (kept : UInt64×List PayloadSection) (part : Part) : UInt64×List PayloadSection :=
  if part.generic then (part.time,part.sections)
  else if kept.1=part.time then (kept.1,mergeSections kept.2 part.sections)
  else kept

/-- Last generic enter of some records, with the records behind it. -/
def lastEnter : List Part → Option (Part×List Part)
  | [] => none
  | part::rest =>
    match lastEnter rest with
    | some found => some found
    | none => if part.generic then some (part,rest) else none

/-- Sections of the records that are stamped with a time. -/
def stamped (time : UInt64) (parts : List Part) : List PayloadSection :=
  (parts.filter fun part => part.time==time).flatMap Part.sections

/-- Without a generic enter only partial records of the right time are added. -/
theorem foldl_absorb_fragments {parts : List Part} (h : lastEnter parts=none)
    (kept : UInt64×List PayloadSection) :
    parts.foldl absorb kept=(kept.1,mergeSections kept.2 (stamped kept.1 parts)) := by
  induction parts generalizing kept with
  | nil => rfl
  | cons part rest ih =>
    have hrest : lastEnter rest=none ∧ part.generic=false := by
      unfold lastEnter at h
      cases hlast : lastEnter rest with
      | some found =>
        rw [hlast] at h
        exact nomatch h
      | none =>
        rw [hlast] at h
        cases hgeneric : part.generic with
        | false => exact ⟨rfl,rfl⟩
        | true =>
          rw [hgeneric] at h
          exact nomatch h
    rw [List.foldl_cons,ih hrest.1]
    unfold absorb stamped
    rw [hrest.2,if_neg Bool.false_ne_true,List.filter_cons]
    by_cases htime : kept.1=part.time
    · rw [if_pos htime,if_pos (beq_iff_eq.mpr htime.symm),List.flatMap_cons]
      dsimp only
      rw [mergeSections_append]
    · rw [if_neg htime,if_neg (fun heq => htime (beq_iff_eq.mp heq).symm)]

/-- What is remembered depends on the last generic enter and the records behind it. -/
theorem foldl_absorb {parts rest : List Part} {enter : Part}
    (h : lastEnter parts=some (enter,rest)) (kept : UInt64×List PayloadSection) :
    parts.foldl absorb kept=
      (enter.time,mergeSections enter.sections (stamped enter.time rest)) := by
  induction parts generalizing kept with
  | nil => exact nomatch h
  | cons part others ih =>
    rw [List.foldl_cons]
    unfold lastEnter at h
    cases hlast : lastEnter others with
    | some found =>
      rw [hlast] at h
      obtain rfl := Option.some.inj h
      exact ih hlast _
    | none =>
      rw [hlast] at h
      cases hgeneric : part.generic with
      | false =>
        rw [hgeneric] at h
        exact nomatch h
      | true =>
        rw [hgeneric] at h
        have hpair := Option.some.inj h
        rw [foldl_absorb_fragments hlast,←(Prod.mk.inj hpair).1,←(Prod.mk.inj hpair).2]
        unfold absorb
        rw [if_pos hgeneric]

/-- A sequence that starts with a generic enter has a last one. -/
theorem exists_lastEnter {part : Part} (h : part.generic=true) (rest : List Part) :
    ∃ enter behind, lastEnter (part::rest)=some (enter,behind) := by
  unfold lastEnter
  cases lastEnter rest with
  | some found => exact ⟨found.1,found.2,rfl⟩
  | none => exact ⟨part,rest,if_pos h⟩

/-- An invocation whose start was saved at a time can be recovered: its last generic enter is
stamped with that time, and every section of its records is one of that enter, or the first of its
object among those of the enter and of the partial records stamped with the time. -/
def Recoverable (time : UInt64) (parts : List Part) : Prop :=
  ∃ enter rest, lastEnter parts=some (enter,rest) ∧ enter.time=time ∧
    ∀ part∈parts, ∀ s∈part.sections,
      s∈enter.sections ∨ FirstOf enter.sections (stamped time rest) s

/-- An invocation can be recovered exactly if what is remembered has its time and sections. -/
theorem recoverable_iff {part : Part} (h : part.generic=true) (rest : List Part) (time : UInt64)
    (kept : UInt64×List PayloadSection) :
    Recoverable time (part::rest) ↔
      ((part::rest).foldl absorb kept).1=time ∧
        ∀ q∈part::rest, ∀ s∈q.sections, s∈((part::rest).foldl absorb kept).2 := by
  obtain ⟨enter,behind,hlast⟩ := exists_lastEnter h rest
  rw [foldl_absorb hlast]
  unfold Recoverable
  simp only [mem_mergeSections]
  constructor
  · rintro ⟨other,others,hother,htime,hall⟩
    rw [hlast] at hother
    obtain ⟨rfl,rfl⟩ := Prod.mk.inj (Option.some.inj hother)
    rw [htime]
    exact ⟨rfl,hall⟩
  · rintro ⟨htime,hall⟩
    rw [htime] at hall
    exact ⟨enter,behind,hlast,htime,hall⟩

end Parts

end StraceGo.EventInvocationParts

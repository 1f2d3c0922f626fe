import Mathlib.Order.Basic

/-!
# Stages that may fail

A stage changes a state and ends with a value or with the causes of its failure.
Stages follow one another up to the first that fails, a rollback runs behind a
failure, and a cleanup runs in any case; their causes are joined in the order they
came up. What a stage keeps is stated for both of its ends, and no cause is lost
when every stage reports the failures of its requests.
-/

namespace StraceGo.FallibleStages

variable {S C A B : Type}

/-- A stage ends with a value or with causes, and changes the state. -/
def Stage (S C A : Type) : Type := S → Except (List C) A×S

namespace Stage

/-- A stage that only gives a value. -/
def ret (a : A) : Stage S C A := fun s => (.ok a,s)

/-- The stage that follows is given the value. -/
def next (x : Stage S C A) (f : A → Stage S C B) : Stage S C B := fun s =>
  match x s with
  | (.ok a,s) => f a s
  | (.error causes,s) => (.error causes,s)

instance : Monad (Stage S C) where
  pure := ret
  bind := next

/-- Read the state. -/
def get : Stage S C S := fun s => (.ok s,s)

/-- Change the state. -/
def modify (f : S → S) : Stage S C Unit := fun s => (.ok (),f s)

/-- The causes of an end. -/
def causesOf : Except (List C) A → List C
  | .ok _ => []
  | .error causes => causes

/-- The end with joined causes. -/
def joined (causes : List C) : Except (List C) Unit :=
  match causes with
  | [] => .ok ()
  | cause::causes => .error (cause::causes)

/-- Both stages run, and their causes are joined. -/
def also (x : Stage S C A) (y : Stage S C B) : Stage S C Unit := fun s =>
  let (first,s) := x s
  let (second,s) := y s
  (joined (causesOf first ++ causesOf second),s)

/-- The rollback runs behind a failure, and its causes are joined. -/
def rollback (x : Stage S C A) (y : Stage S C B) : Stage S C A := fun s =>
  match x s with
  | (.ok a,s) => (.ok a,s)
  | (.error causes,s) =>
    let (second,s) := y s
    (.error (causes ++ causesOf second),s)

/-- A stage for every member of a list, up to the first that fails. -/
def forEach (f : A → Stage S C Unit) : List A → Stage S C Unit
  | [] => ret ()
  | a::rest => next (f a) fun _ => forEach f rest

/-- A stage for every member of a list, whatever fails. -/
def alsoEach (f : A → Stage S C Unit) : List A → Stage S C Unit
  | [] => ret ()
  | a::rest => also (f a) (alsoEach f rest)

end Stage

open Stage

section Ends

/-- What holds at the end of a stage. -/
def Ends (Q : A → S → Prop) (R : List C → S → Prop) : Except (List C) A×S → Prop
  | (.ok a,s) => Q a s
  | (.error causes,s) => R causes s

/-- From a state as assumed, a stage ends as stated. -/
def Meets (P : S → Prop) (x : Stage S C A) (Q : A → S → Prop) (R : List C → S → Prop) : Prop :=
  ∀ s, P s → Ends Q R (x s)

variable {P P' : S → Prop} {Q Q' : A → S → Prop} {R R' : List C → S → Prop} {x : Stage S C A}

theorem Ends.mono {out : Except (List C) A×S} (h : Ends Q R out) (hQ : ∀ a s, Q a s → Q' a s)
    (hR : ∀ causes s, R causes s → R' causes s) : Ends Q' R' out := by
  obtain ⟨out,s⟩ := out
  cases out with
  | ok a => exact hQ a s h
  | error causes => exact hR causes s h

theorem Meets.mono (h : Meets P x Q R) (hP : ∀ s, P' s → P s) (hQ : ∀ a s, Q a s → Q' a s)
    (hR : ∀ causes s, R causes s → R' causes s) : Meets P' x Q' R' :=
  fun s hs => (h s (hP s hs)).mono hQ hR

/-- The second stage starts where the first ends. -/
theorem Meets.bind {Q : A → S → Prop} {Q' : B → S → Prop} {f : A → Stage S C B}
    (hx : Meets P x Q R) (hf : ∀ a, Meets (Q a) (f a) Q' R) : Meets P (x >>= f) Q' R := by
  intro s hs
  have hfirst := hx s hs
  change Ends Q' R (Stage.next x f s)
  rw [Stage.next]
  generalize x s=out at hfirst
  obtain ⟨out,s'⟩ := out
  cases out with
  | ok a => exact hf a s' hfirst
  | error causes => exact hfirst

/-- A stage that looks at the state first. -/
theorem Meets.get {f : S → Stage S C B} {Q' : B → S → Prop}
    (h : ∀ s, P s → Ends Q' R (f s s)) : Meets P (Stage.get >>= f) Q' R :=
  fun s hs => h s hs

theorem Ends.joined {Q : Unit → S → Prop} {causes : List C} {s : S} (hQ : causes=[] → Q () s)
    (hR : causes≠[] → R causes s) : Ends Q R (Stage.joined causes,s) := by
  cases causes with
  | nil => exact hQ rfl
  | cons cause causes => exact hR (List.cons_ne_nil _ _)

/-- A rollback puts a failure right. -/
theorem Meets.rollback {y : Stage S C B} {M : List C → S → Prop} (hx : Meets P x Q M)
    (hy : ∀ causes, Meets (M causes) y (fun _ => R causes)
      (fun causes' => R (causes ++ causes'))) : Meets P (x.rollback y) Q R := by
  intro s hs
  have hfirst := hx s hs
  rw [Stage.rollback]
  generalize x s=out at hfirst
  obtain ⟨out,s'⟩ := out
  cases out with
  | ok a => exact hfirst
  | error causes =>
    have hsecond := hy causes s' hfirst
    dsimp only
    generalize y s'=out at hsecond
    obtain ⟨out,s''⟩ := out
    cases out with
    | ok b =>
      change R (causes ++ []) s''
      rw [List.append_nil]
      exact hsecond
    | error causes' => exact hsecond

/-- Both stages run, whatever the first ends with. -/
theorem Meets.also {y : Stage S C B} {M T : S → Prop}
    (hx : Meets P x (fun _ => M) (fun _ => M)) (hy : Meets M y (fun _ => T) (fun _ => T)) :
    Meets P (x.also y) (fun _ => T) (fun _ => T) := by
  intro s hs
  have hfirst := hx s hs
  rw [Stage.also]
  generalize x s=out at hfirst
  obtain ⟨out,s'⟩ := out
  have hmiddle : M s' := by cases out <;> exact hfirst
  have hsecond := hy s' hmiddle
  dsimp only
  generalize y s'=out' at hsecond
  obtain ⟨out',s''⟩ := out'
  have hlast : T s'' := by cases out' <;> exact hsecond
  exact Ends.joined (fun _ => hlast) fun _ => hlast

/-- What every round keeps, and what every round that fails leaves. -/
theorem meets_forEach {f : A → Stage S C Unit} {I : List A → S → Prop}
    (hf : ∀ a rest, Meets (I (a::rest)) (f a) (fun _ => I rest) R) (l : List A) :
    Meets (I l) (forEach f l) (fun _ => I []) R := by
  induction l with
  | nil => exact fun _ h => h
  | cons a rest ih => exact (hf a rest).bind fun _ => ih

/-- What every round keeps, whatever fails. -/
theorem meets_alsoEach {f : A → Stage S C Unit} {I : List A → S → Prop}
    (hf : ∀ a rest, Meets (I (a::rest)) (f a) (fun _ => I rest) (fun _ => I rest)) (l : List A) :
    Meets (I l) (alsoEach f l) (fun _ => I []) (fun _ => I []) := by
  induction l with
  | nil => exact fun _ h => h
  | cons a rest ih => exact (hf a rest).also ih

end Ends

section Reports

variable (failures : S → List C)

/-- A stage reports exactly the failures of its requests. -/
def Reports (x : Stage S C A) : Prop :=
  ∀ s, failures (x s).2=failures s ++ causesOf (x s).1 ∧
    ∀ causes, (x s).1=.error causes → causes≠[]

variable {failures} {x : Stage S C A}

theorem ok_ne_error {a : A} {causes : List C} :
    (Except.ok a : Except (List C) A)≠.error causes := by
  intro h
  cases h

theorem reports_ret (a : A) : Reports failures (pure a : Stage S C A) :=
  fun _ => ⟨(List.append_nil _).symm,fun _ h => absurd h ok_ne_error⟩

theorem reports_modify {f : S → S} (hf : ∀ s, failures (f s)=failures s) :
    Reports failures (modify f : Stage S C Unit) :=
  fun s => ⟨(hf s).trans (List.append_nil _).symm,fun _ h => absurd h ok_ne_error⟩

theorem Reports.bind {f : A → Stage S C B} (hx : Reports failures x)
    (hf : ∀ a, Reports failures (f a)) : Reports failures (x >>= f) := by
  intro s
  have hfirst := hx s
  change failures (Stage.next x f s).2=failures s ++ causesOf (Stage.next x f s).1 ∧
    ∀ causes, (Stage.next x f s).1=.error causes → causes≠[]
  rw [Stage.next]
  generalize x s=out at hfirst
  obtain ⟨out,s'⟩ := out
  cases out with
  | ok a =>
    have hkeep : failures s'=failures s := hfirst.1.trans (List.append_nil _)
    have hsecond := hf a s'
    rw [hkeep] at hsecond
    exact hsecond
  | error causes =>
    refine ⟨hfirst.1,fun other hother => hfirst.2 other ?_⟩
    exact congrArg Except.error (Except.error.inj hother)

theorem Reports.get {f : S → Stage S C B} (h : ∀ s, Reports failures (f s)) :
    Reports failures (Stage.get >>= f) := fun s => h s s

theorem causesOf_joined (causes : List C) : causesOf (joined causes)=causes := by
  cases causes <;> rfl

theorem ne_nil_of_joined {causes causes' : List C} (h : joined causes=.error causes') :
    causes'≠[] := by
  cases causes with
  | nil => exact absurd h ok_ne_error
  | cons cause causes =>
    have hcauses : cause::causes=causes' := Except.error.inj h
    rw [←hcauses]
    exact List.cons_ne_nil _ _

theorem Reports.also {y : Stage S C B} (hx : Reports failures x) (hy : Reports failures y) :
    Reports failures (x.also y) := by
  intro s
  have hfirst := (hx s).1
  have hsecond := (hy (x s).2).1
  refine ⟨?_,fun causes h => ne_nil_of_joined h⟩
  change failures (y (x s).2).2=failures s ++ causesOf (joined _)
  rw [causesOf_joined,hsecond,hfirst,List.append_assoc]

theorem Reports.rollback {y : Stage S C B} (hx : Reports failures x) (hy : Reports failures y) :
    Reports failures (x.rollback y) := by
  intro s
  have hfirst := hx s
  rw [Stage.rollback]
  generalize x s=out at hfirst
  obtain ⟨out,s'⟩ := out
  cases out with
  | ok a => exact hfirst
  | error causes =>
    have hcauses : failures s'=failures s ++ causes := hfirst.1
    refine ⟨?_,fun other hother => ?_⟩
    · change failures (y s').2=failures s ++ (causes ++ causesOf (y s').1)
      rw [(hy s').1,hcauses,List.append_assoc]
    · have hother' : causes ++ causesOf (y s').1=other := Except.error.inj hother
      rw [←hother']
      exact List.append_ne_nil_of_left_ne_nil (hfirst.2 causes rfl) _

theorem reports_forEach {f : A → Stage S C Unit} (hf : ∀ a, Reports failures (f a))
    (l : List A) : Reports failures (forEach f l) := by
  induction l with
  | nil => exact reports_ret ()
  | cons a rest ih => exact (hf a).bind fun _ => ih

theorem reports_alsoEach {f : A → Stage S C Unit} (hf : ∀ a, Reports failures (f a))
    (l : List A) : Reports failures (alsoEach f l) := by
  induction l with
  | nil => exact reports_ret ()
  | cons a rest ih => exact (hf a).also ih

end Reports

end StraceGo.FallibleStages

import Mathlib.Data.Finset.Card
import Mathlib.Data.Finset.SDiff
import Mathlib.Logic.Relation
import Mathlib.Data.Set.Insert

/-!
# Depth-first closures

A search marks a node before it follows what the node leads to, never enters a
marked node again and stops at a node that cannot be entered. It runs on any
state that records the marked nodes. With as much fuel as there are nodes left
to mark it ends; it then has marked what is reachable, or has found a reachable
node that cannot be entered.
-/

namespace StraceGo.DepthFirstClosure

variable {α β σ ε : Type}

section Search

/-- Continue with a state unless there is an error or no result. -/
def andThen (r : Option (Except ε σ)) (f : σ → Option (Except ε σ)) : Option (Except ε σ) :=
  match r with
  | none => none
  | some (.error e) => some (.error e)
  | some (.ok s) => f s

/-- A state after two parts is one after each. -/
theorem andThen_eq_ok {r : Option (Except ε σ)} {f : σ → Option (Except ε σ)} {s : σ}
    (h : andThen r f=some (.ok s)) : ∃ middle, r=some (.ok middle) ∧ f middle=some (.ok s) := by
  match r with
  | none => exact absurd h.symm (Option.some_ne_none _)
  | some (.error e) => exact absurd h (by simp [andThen])
  | some (.ok middle) => exact ⟨middle,rfl,h⟩

/-- Run a step for each element in turn. -/
def forEach (step : β → σ → Option (Except ε σ)) : List β → σ → Option (Except ε σ)
  | [],s => some (.ok s)
  | b::rest,s => andThen (step b s) (forEach step rest)

/-- What every step keeps, a loop keeps. -/
theorem forEach_preserves {step : β → σ → Option (Except ε σ)} {I : σ → Prop}
    (hstep : ∀ {b s s'}, I s → step b s=some (.ok s') → I s') {items : List β} {s s' : σ} (hs : I s)
    (h : forEach step items s=some (.ok s')) : I s' := by
  induction items generalizing s with
  | nil =>
    rw [←Except.ok.inj (Option.some.inj h)]
    exact hs
  | cons b rest ih =>
    obtain ⟨middle,hfirst,hrest⟩ := andThen_eq_ok h
    exact ih (hstep hs hfirst) hrest

/-- A result stays when the two parts keep theirs. -/
theorem andThen_mono {r r' : Option (Except ε σ)} {f f' : σ → Option (Except ε σ)}
    {outcome : Except ε σ} (hr : ∀ {outcome}, r=some outcome → r'=some outcome)
    (hf : ∀ {s outcome}, f s=some outcome → f' s=some outcome)
    (h : andThen r f=some outcome) : andThen r' f'=some outcome := by
  match r with
  | none => exact absurd h.symm (Option.some_ne_none _)
  | some (.error e) =>
    rw [hr rfl]
    exact h
  | some (.ok s) =>
    rw [hr rfl]
    exact hf h

/-- A result stays when every step keeps its own. -/
theorem forEach_mono {step step' : β → σ → Option (Except ε σ)}
    (hstep : ∀ {b s outcome}, step b s=some outcome → step' b s=some outcome) {items : List β}
    {s : σ} {outcome : Except ε σ} (h : forEach step items s=some outcome) :
    forEach step' items s=some outcome := by
  induction items generalizing s outcome with
  | nil => exact h
  | cons b rest ih => exact andThen_mono hstep ih h

variable [DecidableEq α] (visited : σ → Finset α) (enter : α → σ → Except ε (σ×List α))

/-- Visit a node and, if it was not marked, what it leads to. -/
def visit : ℕ → α → σ → Option (Except ε σ)
  | 0,_,_ => none
  | fuel+1,a,s =>
    if a∈visited s then some (.ok s)
    else
      match enter a s with
      | .error e => some (.error e)
      | .ok (s,rest) => forEach (visit fuel) rest s

end Search

section Reachability

variable (next : α → Option (List α))

/-- A node leads to another. -/
def Edge (a b : α) : Prop := ∃ rest, next a=some rest ∧ b∈rest

/-- A node can be reached from some roots. -/
def Reachable (roots : Set α) (x : α) : Prop := ∃ r∈roots, Relation.ReflTransGen (Edge next) r x

/-- What a search that ends well does to the marked nodes. -/
structure Explores (roots : Set α) (seen result : Finset α) : Prop where
  /-- Marks stay. -/
  subset : seen⊆result
  /-- The roots are marked. -/
  marked : ∀ r∈roots, r∈result
  /-- New marks are reachable. -/
  reachable : ∀ x∈result, x∉seen → Reachable next roots x
  /-- What a new mark leads to is marked. -/
  closed : ∀ x∈result, x∉seen → ∃ rest, next x=some rest ∧ ∀ y∈rest, y∈result

variable {next}

/-- More roots reach more. -/
theorem Reachable.mono {roots more : Set α} {x : α} (h : Reachable next roots x)
    (hsubset : ∀ r∈roots, r∈more) : Reachable next more x := by
  obtain ⟨r,hr,hpath⟩ := h
  exact ⟨r,hsubset r hr,hpath⟩

/-- What a successor reaches is reached. -/
theorem Reachable.head {a x : α} {rest : List α} (hnext : next a=some rest)
    (h : Reachable next {y | y∈rest} x) : Reachable next {a} x := by
  obtain ⟨r,hr,hpath⟩ := h
  exact ⟨a,rfl,Relation.ReflTransGen.head ⟨rest,hnext,hr⟩ hpath⟩

namespace Explores

/-- Nothing to explore. -/
theorem refl (seen : Finset α) : Explores next ∅ seen seen where
  subset := fun _ hx => hx
  marked := fun _ hr => absurd hr (Set.notMem_empty _)
  reachable := fun _ hx hnot => absurd hx hnot
  closed := fun _ hx hnot => absurd hx hnot

/-- A marked root is explored. -/
theorem of_mem {a : α} {seen : Finset α} (h : a∈seen) : Explores next {a} seen seen where
  subset := fun _ hx => hx
  marked := fun r hr => by
    rw [Set.mem_singleton_iff.mp hr]
    exact h
  reachable := fun _ hx hnot => absurd hx hnot
  closed := fun _ hx hnot => absurd hx hnot

/-- One exploration after another. -/
theorem trans {first second : Set α} {a b c : Finset α} (hab : Explores next first a b)
    (hbc : Explores next second b c) : Explores next (first∪second) a c where
  subset := fun x hx => hbc.subset (hab.subset hx)
  marked := fun r hr => by
    rcases hr with hr | hr
    · exact hbc.subset (hab.marked r hr)
    · exact hbc.marked r hr
  reachable := fun x hx hnot => by
    by_cases hb : x∈b
    · exact (hab.reachable x hb hnot).mono fun r hr => Or.inl hr
    · exact (hbc.reachable x hx hb).mono fun r hr => Or.inr hr
  closed := fun x hx hnot => by
    by_cases hb : x∈b
    · obtain ⟨rest,hnext,hmem⟩ := hab.closed x hb hnot
      exact ⟨rest,hnext,fun y hy => hbc.subset (hmem y hy)⟩
    · exact hbc.closed x hx hb

/-- Marking a node and exploring what it leads to explores it. -/
theorem of_insert [DecidableEq α] {a : α} {rest : List α} {seen result : Finset α}
    (hnext : next a=some rest) (h : Explores next {y | y∈rest} (insert a seen) result) :
    Explores next {a} seen result where
  subset := fun x hx => h.subset (Finset.mem_insert_of_mem hx)
  marked := fun r hr => by
    rw [Set.mem_singleton_iff.mp hr]
    exact h.subset (Finset.mem_insert_self a seen)
  reachable := fun x hx hnot => by
    by_cases hxa : x=a
    · rw [hxa]
      exact ⟨a,rfl,Relation.ReflTransGen.refl⟩
    · have hnew : x∉insert a seen := fun hmem =>
        (Finset.mem_insert.mp hmem).elim hxa hnot
      exact (h.reachable x hx hnew).head hnext
  closed := fun x hx hnot => by
    by_cases hxa : x=a
    · rw [hxa]
      exact ⟨rest,hnext,h.marked⟩
    · have hnew : x∉insert a seen := fun hmem =>
        (Finset.mem_insert.mp hmem).elim hxa hnot
      exact h.closed x hx hnew

/-- From nothing marked exactly the reachable nodes are marked. -/
theorem mem_iff {roots : Set α} {result : Finset α} (h : Explores next roots ∅ result) (x : α) :
    x∈result ↔ Reachable next roots x := by
  constructor
  · exact fun hx => h.reachable x hx (Finset.notMem_empty x)
  · rintro ⟨r,hr,hpath⟩
    induction hpath with
    | refl => exact h.marked r hr
    | tail hpath hedge ih =>
      obtain ⟨rest,hnext,hmem⟩ := hedge
      obtain ⟨rest',hnext',hclosed⟩ := h.closed _ ih (Finset.notMem_empty _)
      rw [hnext] at hnext'
      rw [Option.some.inj hnext'] at hmem
      exact hclosed _ hmem

/-- From nothing marked every reachable node can be entered. -/
theorem next_ne_none {roots : Set α} {result : Finset α} (h : Explores next roots ∅ result)
    {x : α} (hx : Reachable next roots x) : next x≠none := by
  obtain ⟨rest,hnext,-⟩ := h.closed x ((h.mem_iff x).mpr hx) (Finset.notMem_empty x)
  rw [hnext]
  exact Option.some_ne_none rest

end Explores

end Reachability

section Outcomes

variable (next : α → Option (List α)) (visited : σ → Finset α)

/-- What a search from some roots may end with. -/
def Meets (roots : Set α) (s : σ) : Except ε σ → Prop
  | .ok result => Explores next roots (visited s) (visited result)
  | .error _ => ∃ x, Reachable next roots x ∧ next x=none

variable {next visited}

/-- Two searches in turn. -/
theorem Meets.andThen {first second : Set α} {s : σ} {r : Option (Except ε σ)}
    {f : σ → Option (Except ε σ)} {outcome : Except ε σ}
    (hfirst : ∀ outcome, r=some outcome → Meets next visited first s outcome)
    (hsecond : ∀ s' outcome, f s'=some outcome → Meets next visited second s' outcome)
    (h : DepthFirstClosure.andThen r f=some outcome) :
    Meets next visited (first∪second) s outcome := by
  unfold DepthFirstClosure.andThen at h
  match r with
  | none => exact absurd h.symm (Option.some_ne_none _)
  | some (.error e) =>
    rw [←Option.some.inj h]
    obtain ⟨x,hx,hnone⟩ := hfirst _ rfl
    exact ⟨x,hx.mono fun r hr => Or.inl hr,hnone⟩
  | some (.ok s') =>
    have hexplores : Explores next first (visited s) (visited s') := hfirst _ rfl
    have hrest := hsecond s' outcome h
    cases outcome with
    | error e =>
      obtain ⟨x,hx,hnone⟩ := hrest
      exact ⟨x,hx.mono fun r hr => Or.inr hr,hnone⟩
    | ok result => exact hexplores.trans hrest

/-- A search for each element of a list. -/
theorem Meets.forEach {step : β → σ → Option (Except ε σ)} {roots : β → Set α}
    (hstep : ∀ b s outcome, step b s=some outcome → Meets next visited (roots b) s outcome)
    {items : List β} {s : σ} {outcome : Except ε σ}
    (h : DepthFirstClosure.forEach step items s=some outcome) :
    Meets next visited {x | ∃ b∈items, x∈roots b} s outcome := by
  induction items generalizing s outcome with
  | nil =>
    have hempty : {x | ∃ b∈([] : List β), x∈roots b}=∅ := by simp
    rw [hempty,←Option.some.inj h]
    exact Explores.refl (visited s)
  | cons b rest ih =>
    have hunion : {x | ∃ b'∈b::rest, x∈roots b'}=roots b∪{x | ∃ b'∈rest, x∈roots b'} := by
      ext x
      simp
    rw [hunion]
    exact Meets.andThen (hstep b s) (fun s' outcome h => ih h) h

end Outcomes

section Visits

variable [DecidableEq α] (next : α → Option (List α)) (visited : σ → Finset α)
variable (enter : α → σ → Except ε (σ×List α))

/-- Entering a node marks it and gives what it leads to. -/
structure Enters : Prop where
  /-- A node that can be entered. -/
  ok : ∀ {a s s' rest}, enter a s=.ok (s',rest) → next a=some rest ∧ visited s'=insert a (visited s)
  /-- A node that cannot. -/
  error : ∀ {a s e}, enter a s=.error e → next a=none

variable {next visited enter}

/-- A visit explores its node or finds one that cannot be entered. -/
theorem visit_meets (h : Enters next visited enter) {fuel : ℕ} {a : α} {s : σ}
    {outcome : Except ε σ} (hvisit : visit visited enter fuel a s=some outcome) :
    Meets next visited {a} s outcome := by
  induction fuel generalizing a s outcome with
  | zero => exact absurd hvisit.symm (Option.some_ne_none _)
  | succ fuel ih =>
    rw [visit] at hvisit
    by_cases ha : a∈visited s
    · rw [if_pos ha] at hvisit
      rw [←Option.some.inj hvisit]
      exact Explores.of_mem ha
    · rw [if_neg ha] at hvisit
      cases henter : enter a s with
      | error e =>
        rw [henter] at hvisit
        rw [←Option.some.inj hvisit]
        exact ⟨a,⟨a,rfl,Relation.ReflTransGen.refl⟩,h.error henter⟩
      | ok entered =>
        obtain ⟨hnext,hmarks⟩ := h.ok henter
        rw [henter] at hvisit
        have hrest := Meets.forEach (fun b s outcome hb => ih hb) hvisit
        have hroots : {x | ∃ b∈entered.2, x∈({b} : Set α)}={x | x∈entered.2} := by
          ext x
          simp
        rw [hroots] at hrest
        cases outcome with
        | error e =>
          obtain ⟨x,hx,hnone⟩ := hrest
          exact ⟨x,hx.head hnext,hnone⟩
        | ok result =>
          apply Explores.of_insert hnext
          rw [←hmarks]
          exact hrest

/-- Elements run through one after another end if each does as long as few nodes are left. -/
theorem forEach_ends {step : α → σ → Option (Except ε σ)} {nodes : Finset α} {bound : ℕ}
    (hstep : ∀ a s, (nodes\visited s).card < bound → ∃ outcome, step a s=some outcome)
    (hmeets : ∀ a s outcome, step a s=some outcome → Meets next visited {a} s outcome)
    (items : List α) {s : σ} (h : (nodes\visited s).card < bound) :
    ∃ outcome, forEach step items s=some outcome := by
  induction items generalizing s with
  | nil => exact ⟨_,rfl⟩
  | cons a rest ih =>
    obtain ⟨outcome,hfirst⟩ := hstep a s h
    cases outcome with
    | error e =>
      refine ⟨.error e,?_⟩
      rw [forEach,hfirst]
      rfl
    | ok s' =>
      have hexplores : Explores next {a} (visited s) (visited s') := hmeets a s _ hfirst
      have hfewer := Finset.card_le_card (Finset.sdiff_subset_sdiff (Finset.Subset.refl nodes)
        hexplores.subset)
      obtain ⟨outcome,hrest⟩ := ih (Nat.lt_of_le_of_lt hfewer h)
      refine ⟨outcome,?_⟩
      rw [forEach,hfirst]
      exact hrest

/-- A visit ends with more fuel than there are nodes left. -/
theorem visit_ends (h : Enters next visited enter) {nodes : Finset α}
    (hnodes : ∀ a, next a≠none → a∈nodes) {fuel : ℕ} (a : α) {s : σ}
    (hfuel : (nodes\visited s).card < fuel) :
    ∃ outcome, visit visited enter fuel a s=some outcome := by
  induction fuel generalizing a s with
  | zero => exact absurd hfuel (Nat.not_lt_zero _)
  | succ fuel ih =>
    rw [visit]
    by_cases ha : a∈visited s
    · rw [if_pos ha]
      exact ⟨_,rfl⟩
    · rw [if_neg ha]
      cases henter : enter a s with
      | error e => exact ⟨_,rfl⟩
      | ok entered =>
        obtain ⟨hnext,hmarks⟩ := h.ok henter
        have hnode : a∈nodes := hnodes a (by simp [hnext])
        have hcard : (nodes\visited entered.1).card < (nodes\visited s).card := by
          rw [hmarks]
          apply Finset.card_lt_card
          rw [Finset.ssubset_iff]
          refine ⟨a,by simp,?_⟩
          intro x hx
          rcases Finset.mem_insert.mp hx with rfl | hx
          · exact Finset.mem_sdiff.mpr ⟨hnode,ha⟩
          · obtain ⟨hx,hnot⟩ := Finset.mem_sdiff.mp hx
            exact Finset.mem_sdiff.mpr ⟨hx,fun hmem => hnot (Finset.mem_insert_of_mem hmem)⟩
        have hfewer : (nodes\visited entered.1).card < fuel := by omega
        have hends : ∀ b s, (nodes\visited s).card < fuel →
            ∃ outcome, visit visited enter fuel b s=some outcome := fun b s hlt => ih b hlt
        have hmeets : ∀ b s outcome, visit visited enter fuel b s=some outcome →
            Meets next visited {b} s outcome := fun b s outcome hb => visit_meets h hb
        exact forEach_ends hends hmeets entered.2 hfewer

/-- What entering keeps, visiting keeps. -/
theorem visit_preserves {I : σ → Prop}
    (henter : ∀ {a s s' rest}, I s → enter a s=.ok (s',rest) → I s') {fuel : ℕ} {a : α} {s s' : σ}
    (hs : I s) (h : visit visited enter fuel a s=some (.ok s')) : I s' := by
  induction fuel generalizing a s s' with
  | zero => exact absurd h.symm (Option.some_ne_none _)
  | succ fuel ih =>
    rw [visit] at h
    by_cases ha : a∈visited s
    · rw [if_pos ha] at h
      rw [←Except.ok.inj (Option.some.inj h)]
      exact hs
    · rw [if_neg ha] at h
      cases hentered : enter a s with
      | error e =>
        rw [hentered] at h
        exact absurd h (by simp)
      | ok entered =>
        rw [hentered] at h
        exact forEach_preserves (fun hs hb => ih hs hb) (henter hs hentered) h

/-- More fuel changes no result. -/
theorem visit_succ {fuel : ℕ} {a : α} {s : σ} {outcome : Except ε σ}
    (h : visit visited enter fuel a s=some outcome) :
    visit visited enter (fuel+1) a s=some outcome := by
  induction fuel generalizing a s outcome with
  | zero => exact absurd h.symm (Option.some_ne_none _)
  | succ fuel ih =>
    rw [visit] at h ⊢
    by_cases ha : a∈visited s
    · rw [if_pos ha] at h ⊢
      exact h
    · rw [if_neg ha] at h ⊢
      cases hentered : enter a s with
      | error e =>
        rw [hentered] at h
        exact h
      | ok entered =>
        rw [hentered] at h
        exact forEach_mono (fun hb => ih hb) h

/-- More fuel changes no result, however much. -/
theorem visit_mono {fuel more : ℕ} (hle : fuel ≤ more) {a : α} {s : σ} {outcome : Except ε σ}
    (h : visit visited enter fuel a s=some outcome) :
    visit visited enter more a s=some outcome := by
  induction hle with
  | refl => exact h
  | step hle ih => exact visit_succ ih

end Visits

end StraceGo.DepthFirstClosure

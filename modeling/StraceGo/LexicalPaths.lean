import Mathlib.Data.List.Basic

/-!
# Paths followed component by component

A path is a list of components. Each component leaves a directory as it is,
goes up or goes into an entry, and a directory is the list of entries that
lead to it. Walking never looks at the file system: going up removes the last
entry, and above the root there is only the root.
-/

namespace StraceGo.LexicalPaths

/-- What a component of a path does. -/
inductive Role where
  | stay
  | up
  | into
  deriving DecidableEq

variable {C : Type} (role : C → Role)

/-- Follow one component from a directory. -/
def follow (dir : List C) (c : C) : List C :=
  match role c with
  | .stay => dir
  | .up => dir.dropLast
  | .into => dir ++ [c]

/-- Follow components from a directory. -/
def walk (dir cs : List C) : List C := cs.foldl (follow role) dir

/-- Every component goes into an entry. -/
def Plain (cs : List C) : Prop := ∀ c∈cs, role c=.into

variable {role}

theorem walk_cons (dir : List C) (c : C) (cs : List C) :
    walk role dir (c::cs)=walk role (follow role dir c) cs := rfl

/-- Following one path and then another follows both. -/
theorem walk_append (dir first second : List C) :
    walk role dir (first ++ second)=walk role (walk role dir first) second :=
  List.foldl_append

/-- Entries are gone into one after another. -/
theorem walk_of_plain {cs : List C} (h : Plain role cs) (dir : List C) :
    walk role dir cs=dir ++ cs := by
  unfold walk
  induction cs generalizing dir with
  | nil => simp
  | cons c cs ih =>
    rw [List.foldl_cons,ih fun other hother => h other (List.mem_cons_of_mem c hother)]
    simp [follow,h c List.mem_cons_self]

/-- One component only adds itself. -/
theorem mem_of_mem_follow {dir : List C} {c d : C} (h : c∈follow role dir d) : c∈dir ∨ c=d := by
  unfold follow at h
  cases hrole : role d with
  | stay =>
    rw [hrole] at h
    exact Or.inl h
  | up =>
    rw [hrole] at h
    exact Or.inl (List.dropLast_subset dir h)
  | into =>
    rw [hrole] at h
    simpa using h

/-- A walk only meets entries of the directory and of the path. -/
theorem mem_of_mem_walk {dir cs : List C} {c : C} (h : c∈walk role dir cs) : c∈dir ∨ c∈cs := by
  unfold walk at h
  induction cs generalizing dir with
  | nil => exact Or.inl h
  | cons d cs ih =>
    rcases ih h with hdir | hcs
    · rcases mem_of_mem_follow hdir with hdir | rfl
      · exact Or.inl hdir
      · exact Or.inr List.mem_cons_self
    · exact Or.inr (List.mem_cons_of_mem d hcs)

/-- A walk from entries leads to entries. -/
theorem plain_walk {dir : List C} (h : Plain role dir) (cs : List C) :
    Plain role (walk role dir cs) := by
  unfold walk
  induction cs generalizing dir with
  | nil => exact h
  | cons d cs ih =>
    apply ih
    intro c hc
    unfold follow at hc
    cases hrole : role d with
    | stay =>
      rw [hrole] at hc
      exact h c hc
    | up =>
      rw [hrole] at hc
      exact h c (List.dropLast_subset dir hc)
    | into =>
      rw [hrole] at hc
      rcases List.mem_append.mp hc with hc | hc
      · exact h c hc
      · rw [List.mem_singleton.mp hc,hrole]

/-- A walk from the root leads to entries. -/
theorem plain_walk_nil (cs : List C) : Plain role (walk role [] cs) :=
  plain_walk (fun _ hc => absurd hc List.not_mem_nil) cs

end StraceGo.LexicalPaths

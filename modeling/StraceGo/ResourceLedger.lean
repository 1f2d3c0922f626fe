import Mathlib.Data.List.Perm.Basic
import Mathlib.Data.List.Nodup

/-!
# Ledgers of resources

Resources are numbered in the order they are obtained, and a ledger records every
attempt to close one. Accounts that balance say that every resource obtained was
either tried to be closed, is held by someone who will close it, or was left open,
and that none is two of these at once.
-/

namespace StraceGo.ResourceLedger

/-- Resources obtained so far, by their number, and the attempts to close some. -/
structure Ledger where
  /-- Resources obtained. -/
  opened : ℕ := 0
  /-- Attempts to close one, in their order. -/
  closes : List ℕ := []
  deriving DecidableEq, Repr

namespace Ledger

/-- Obtain resources. -/
def obtain (l : Ledger) (count : ℕ) : Ledger := {l with opened := l.opened+count}

/-- Try to close resources. -/
def attempt (l : Ledger) (ids : List ℕ) : Ledger := {l with closes := l.closes ++ ids}

@[simp] theorem obtain_closes (l : Ledger) (count : ℕ) : (l.obtain count).closes=l.closes := rfl

@[simp] theorem attempt_opened (l : Ledger) (ids : List ℕ) : (l.attempt ids).opened=l.opened := rfl

@[simp] theorem attempt_closes (l : Ledger) (ids : List ℕ) :
    (l.attempt ids).closes=l.closes ++ ids := rfl

theorem attempt_nil (l : Ledger) : l.attempt []=l := by
  rw [attempt,List.append_nil]

end Ledger

section Accounts

/-- Every resource was tried to be closed, is held or was left open, and is one of these only. -/
def Accounts (l : Ledger) (held left : List ℕ) : Prop :=
  (l.closes ++ (held ++ left)).Perm (List.range l.opened)

variable {l : Ledger} {held held' left left' ids attempted : List ℕ}

theorem accounts_empty : Accounts {} [] [] := List.Perm.refl _

theorem Accounts.perm (h : Accounts l held left) (hheld : held'.Perm held)
    (hleft : left'.Perm left) : Accounts l held' left' :=
  (List.Perm.append_left _ (hheld.append hleft)).trans h

/-- New resources are held by who obtained them. -/
theorem Accounts.obtain (h : Accounts l held left) (count : ℕ) :
    Accounts (l.obtain count) (List.range' l.opened count ++ held) left := by
  unfold Accounts at h ⊢
  rw [Ledger.obtain_closes,Ledger.obtain,List.range_add,List.append_assoc]
  have hnew : (List.range count).map (l.opened+·)=List.range' l.opened count := by
    rw [List.range'_eq_map_range]
  rw [hnew]
  calc (l.closes ++ (List.range' l.opened count ++ (held ++ left))).Perm
        (List.range' l.opened count ++ (l.closes ++ (held ++ left))) :=
        List.perm_append_comm_assoc _ _ _
    _ |>.Perm ((l.closes ++ (held ++ left)) ++ List.range' l.opened count) := List.perm_append_comm
    _ |>.Perm (List.range l.opened ++ List.range' l.opened count) := h.append_right _

/-- A resource that is tried to be closed is no longer held. -/
theorem Accounts.attempt (h : Accounts l (ids ++ held) left) (hids : attempted.Perm ids) :
    Accounts (l.attempt attempted) held left := by
  unfold Accounts at h ⊢
  rw [Ledger.attempt_opened,Ledger.attempt_closes,List.append_assoc]
  refine (List.Perm.append_left _ ?_).trans h
  rw [List.append_assoc]
  exact hids.append_right _

/-- A resource nobody will close any more was left open. -/
theorem Accounts.leave (h : Accounts l (ids ++ held) left) : Accounts l held (ids ++ left) := by
  unfold Accounts at h ⊢
  refine (List.Perm.append_left _ ?_).trans h
  rw [List.append_assoc]
  exact List.perm_append_comm_assoc _ _ _

/-- Nothing is closed twice, what is closed is not held, and what is held is held once. -/
theorem Accounts.nodup (h : Accounts l held left) : (l.closes ++ (held ++ left)).Nodup :=
  h.symm.nodup (List.nodup_range)

theorem Accounts.closes_nodup (h : Accounts l held left) : l.closes.Nodup :=
  h.nodup.of_append_left

/-- Only resources that were obtained are closed. -/
theorem Accounts.lt_of_mem_closes (h : Accounts l held left) {id : ℕ} (hid : id∈l.closes) :
    id<l.opened :=
  List.mem_range.mp (h.mem_iff.mp (List.mem_append_left _ hid))

end Accounts

section Turns

variable {E : Type} (error : ℕ → Option E)

/-- Close one resource after the other up to the first that fails; the resources tried and the
failure. -/
def closeInTurn : List ℕ → List ℕ×Option E
  | [] => ([],none)
  | id::ids =>
    match error id with
    | some cause => ([id],some cause)
    | none =>
      let (attempted,failure) := closeInTurn ids
      (id::attempted,failure)

/-- Resources after the first that fails. -/
def behindFailure : List ℕ → List ℕ
  | [] => []
  | id::ids => if (error id).isSome then ids else behindFailure ids

theorem closeInTurn_append_behindFailure (ids : List ℕ) :
    (closeInTurn error ids).1 ++ behindFailure error ids=ids := by
  induction ids with
  | nil => rfl
  | cons id ids ih =>
    rw [closeInTurn,behindFailure]
    cases error id with
    | none => exact congrArg (id::·) ih
    | some cause => rfl

/-- Resources are left open only behind one whose close failed. -/
theorem failed_of_behindFailure {ids : List ℕ} (h : behindFailure error ids≠[]) :
    ∃ id∈(closeInTurn error ids).1, (error id).isSome := by
  induction ids with
  | nil => exact absurd rfl h
  | cons id ids ih =>
    rw [behindFailure] at h
    rw [closeInTurn]
    cases herror : error id with
    | none =>
      rw [herror] at h
      obtain ⟨failed,hfailed,hsome⟩ := ih h
      exact ⟨failed,List.mem_cons_of_mem _ hfailed,hsome⟩
    | some cause => exact ⟨id,List.mem_cons_self,by rw [herror]; rfl⟩

/-- Closing two groups in turn is closing the second when the first has not failed. -/
theorem closeInTurn_append (ids ids' : List ℕ) :
    closeInTurn error (ids ++ ids')=
      if (closeInTurn error ids).2.isSome then closeInTurn error ids
      else
        ((closeInTurn error ids).1 ++ (closeInTurn error ids').1,(closeInTurn error ids').2) := by
  induction ids with
  | nil => rfl
  | cons id ids ih =>
    rw [List.cons_append,closeInTurn,closeInTurn]
    cases error id with
    | some cause => rfl
    | none =>
      dsimp only
      rw [ih]
      split_ifs <;> rfl

end Turns

end StraceGo.ResourceLedger

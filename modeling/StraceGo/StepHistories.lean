import Mathlib.Data.Nat.Basic

/-!
# Flags along numbered steps

A flag that some steps set and others reset is, before a given step, exactly
what the steps before it say: it was set once and has not been reset since.
-/

namespace StraceGo.StepHistories

variable {p sets resets : ℕ → Prop}

/-- Some step set the flag, and no step since has reset it. -/
def SetSince (sets resets : ℕ → Prop) (n : ℕ) : Prop :=
  ∃ i < n, sets i ∧ ∀ j, i < j → j < n → ¬resets j

/-- A flag that only setting steps raise was set and not reset since. -/
theorem setSince_of_flag (hstart : ¬p 0)
    (hstep : ∀ n, p (n+1) → sets n ∨ p n ∧ ¬resets n) {n : ℕ} (h : p n) :
    SetSince sets resets n := by
  induction n with
  | zero => exact absurd h hstart
  | succ n ih =>
    rcases hstep n h with hset | ⟨hflag,hreset⟩
    · exact ⟨n,Nat.lt_succ_self n,hset,by omega⟩
    · obtain ⟨i,hi,hset,hkept⟩ := ih hflag
      refine ⟨i,Nat.lt_succ_of_lt hi,hset,fun j hij hj => ?_⟩
      rcases Nat.lt_succ_iff_lt_or_eq.mp hj with hlt | rfl
      · exact hkept j hij hlt
      · exact hreset

/-- A flag that only resetting steps lower stays once set. -/
theorem flag_of_setSince (hset : ∀ n, sets n → p (n+1))
    (hkeep : ∀ n, p n → ¬resets n → p (n+1)) {n : ℕ} (h : SetSince sets resets n) :
    p n := by
  obtain ⟨i,hi,hsets,hkept⟩ := h
  induction n with
  | zero => omega
  | succ n ih =>
    rcases Nat.lt_succ_iff_lt_or_eq.mp hi with hlt | rfl
    · exact hkeep n (ih hlt fun j hij hj => hkept j hij (Nat.lt_succ_of_lt hj))
        (hkept n hlt (Nat.lt_succ_self n))
    · exact hset i hsets

/-- A flag is up exactly when it was set and not reset since. -/
theorem flag_iff_setSince (hstart : ¬p 0)
    (hstep : ∀ n, p (n+1) ↔ sets n ∨ p n ∧ ¬resets n) (n : ℕ) :
    p n ↔ SetSince sets resets n :=
  ⟨setSince_of_flag hstart (fun n h => (hstep n).mp h),
    flag_of_setSince (fun n h => (hstep n).mpr (.inl h))
      (fun n h hreset => (hstep n).mpr (.inr ⟨h,hreset⟩))⟩

end StraceGo.StepHistories

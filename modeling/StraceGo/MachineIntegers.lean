import Mathlib.Algebra.Order.Ring.Int
import Mathlib.Tactic.Common

/-!
# Integers of fixed width

Conversions of integers to the signed and unsigned numbers of 64 bits, roundings
in fixed width, and the ranges in which they are exact. A sum or difference of
machine integers is the conversion of the exact one. Masks are words read as sets
of bits.
-/

namespace StraceGo.MachineIntegers

/-- Signed number with the low 64 bits of an integer. -/
def int64 (a : ℤ) : ℤ := (a+2^63)%2^64-2^63

/-- Unsigned number with the low 64 bits of an integer. -/
def uint64 (a : ℤ) : ℕ := (a%2^64).toNat

/-- Signed number rounded up to a multiple of eight. -/
def alignEight (a : ℤ) : ℤ := int64 (a+7)-int64 (a+7)%8

/-- Unsigned number of 32 bits rounded up to a multiple of four. -/
def alignFour32 (n : ℕ) : ℕ := (n+3)%2^32-(n+3)%2^32%4

theorem int64_lt (a : ℤ) : int64 a < 2^63 := by
  unfold int64
  omega

/-- A number in the signed range is kept. -/
theorem int64_eq {a : ℤ} (hlow : -2^63 ≤ a) (hhigh : a < 2^63) : int64 a=a := by
  unfold int64
  omega

/-- A number of the upper half of the unsigned range becomes negative. -/
theorem int64_of_upper {a : ℤ} (hlow : 2^63 ≤ a) (hhigh : a < 2^64) : int64 a=a-2^64 := by
  unfold int64
  omega

/-- A number in the unsigned range is kept. -/
theorem uint64_ofNat {n : ℕ} (h : n < 2^64) : uint64 n=n := by
  unfold uint64
  omega

/-- Rounding up a number that stays in the signed range. -/
theorem alignEight_eq {n : ℕ} (h : n+7 < 2^63) : alignEight n=((n+7)/8*8 : ℕ) := by
  unfold alignEight
  rw [int64_eq (by omega) (by omega)]
  omega

/-- Rounding up past the signed range becomes negative. -/
theorem alignEight_of_upper {n : ℕ} (hlow : 2^63 ≤ n+7) (hhigh : n < 2^63) :
    alignEight n < 0 := by
  unfold alignEight
  rw [int64_of_upper (by omega) (by omega)]
  omega

/-- Rounding up a number that stays in 32 bits. -/
theorem alignFour32_eq {n : ℕ} (h : n+3 < 2^32) : alignFour32 n=(n+3)/4*4 := by
  unfold alignFour32
  omega

/-- Rounding up past 32 bits gives zero. -/
theorem alignFour32_of_upper {n : ℕ} (hlow : 2^32 ≤ n+3) (hhigh : n < 2^32) :
    alignFour32 n=0 := by
  unfold alignFour32
  omega

section Masks

variable {a b v : UInt64}

/-- Words with the same bits are equal. -/
theorem bits_ext (h : ∀ i < 64, a.toBitVec.getLsbD i=b.toBitVec.getLsbD i) : a=b :=
  UInt64.toBitVec_inj.mp (BitVec.eq_of_getLsbD_eq h)

/-- A mask splits a word. -/
theorem split_word (v a : UInt64) : (v &&& a) ||| (v &&& ~~~a)=v := by
  apply bits_ext
  intro i hi
  simp only [UInt64.toBitVec_and,UInt64.toBitVec_or,UInt64.toBitVec_not,BitVec.getLsbD_and,
    BitVec.getLsbD_or,BitVec.getLsbD_not,hi,decide_true,Bool.true_and]
  cases a.toBitVec.getLsbD i <;> cases v.toBitVec.getLsbD i <;> rfl

/-- Bits that are moved from the rest of a word to its collected part are not lost. -/
theorem move_bits {e : UInt64} (h : b ||| (v &&& ~~~a)=v) (he : e &&& v=e) :
    (b ||| e) ||| (v &&& ~~~(a ||| e))=v := by
  apply bits_ext
  intro i hi
  have hsplit := congrArg (fun x : UInt64 => x.toBitVec.getLsbD i) h
  have hinside := congrArg (fun x : UInt64 => x.toBitVec.getLsbD i) he
  simp only [UInt64.toBitVec_and,UInt64.toBitVec_or,UInt64.toBitVec_not,BitVec.getLsbD_and,
    BitVec.getLsbD_or,BitVec.getLsbD_not,hi,decide_true,Bool.true_and] at hsplit hinside ⊢
  revert hsplit hinside
  cases a.toBitVec.getLsbD i <;> cases b.toBitVec.getLsbD i <;> cases e.toBitVec.getLsbD i <;>
    cases v.toBitVec.getLsbD i <;> simp

/-- A mask that is not covered has a bit of its own. -/
theorem rest_ne_zero {e : UInt64} (h : a &&& e≠e) : e &&& ~~~a≠0 := by
  intro hzero
  apply h
  apply bits_ext
  intro i hi
  have hbit := congrArg (fun x : UInt64 => x.toBitVec.getLsbD i) hzero
  simp only [UInt64.toBitVec_and,UInt64.toBitVec_not,BitVec.getLsbD_and,BitVec.getLsbD_not,hi,
    decide_true,Bool.true_and] at hbit ⊢
  revert hbit
  cases a.toBitVec.getLsbD i <;> cases e.toBitVec.getLsbD i <;> simp

end Masks

end StraceGo.MachineIntegers

import StraceGo.FDState
import Mathlib.Data.List.Basic

/-!
# Texts as keys of the descriptor store

Pairs of a process number and a slot, and their texts. A text determines its
pair, because a decimal number has no colon in it: the prefix scans, the new
prefix of an inherited key, the parsed descriptor number and the suffix of the
working directory all agree with the pair.
-/

namespace StraceGo.FDStateKeys

open GoText FDState

/-- Key of a structured store. -/
abbrev FDKey : Type := ℤ×FDSlot

/-- Text of a pair. -/
def keyText (key : FDKey) : String := slotKey key.1 key.2

/-- Text of a slot. -/
def slotText : FDSlot → String
  | .fd n => toString n.toInt
  | .cwd => "cwd"

/-- Number of a slot, for a descriptor that is not negative. -/
def slotNumber : FDSlot → Option ℕ
  | .fd n => if 0 ≤ n.toInt then some n.toInt.toNat else none
  | .cwd => none

section Texts

variable (pid : ℤ) (slot : FDSlot)

/-- A text is the process number, a colon and the slot. -/
theorem keyText_toList :
    (keyText (pid,slot)).toList=(toString pid).toList ++ ':'::(slotText slot).toList := by
  cases slot with
  | fd n =>
    simp only [keyText,slotKey,fdStateKey,slotText,String.toList_append]
    simp
  | cwd =>
    simp only [keyText,slotKey,cwdKey,slotText,String.toList_append]
    simp

theorem fdMapPrefix_toList : (fdMapPrefix pid).toList=(toString pid).toList ++ [':'] := by
  unfold fdMapPrefix
  rw [String.toList_append]
  simp

/-- A process number has no colon. -/
theorem colon_notMem_pid : ':'∉(toString pid).toList :=
  notMem_toString_int (by decide) (by decide) pid

/-- A slot has no colon. -/
theorem colon_notMem_slot : ':'∉(slotText slot).toList := by
  cases slot with
  | fd n => exact notMem_toString_int (by decide) (by decide) n.toInt
  | cwd => decide

/-- Slots have distinct texts. -/
theorem slotText_injective : Function.Injective slotText := by
  have hcwd : ∀ n : Int32, toString n.toInt≠"cwd" := by
    intro n h
    have hmem : 'c'∈(toString n.toInt).toList := by
      rw [h]
      decide
    exact notMem_toString_int (by decide) (by decide) n.toInt hmem
  intro a b h
  cases a with
  | fd m =>
    cases b with
    | fd n => rw [Int32.toInt_inj.mp (toString_int_injective h)]
    | cwd => exact absurd h (hcwd m)
  | cwd =>
    cases b with
    | fd n => exact absurd h.symm (hcwd n)
    | cwd => rfl

/-- A text determines its pair. -/
theorem keyText_injective : Function.Injective keyText := by
  rintro ⟨pid,slot⟩ ⟨pid',slot'⟩ h
  have hlist := congrArg String.toList h
  rw [keyText_toList,keyText_toList,
    List.append_cons_inj_of_notMem (colon_notMem_pid pid) (colon_notMem_slot slot)] at hlist
  obtain ⟨hpid,-,hslot⟩ := hlist
  rw [toString_int_injective (String.toList_inj.mp hpid),
    slotText_injective (String.toList_inj.mp hslot)]

/-- The prefix of a process selects exactly its own keys. -/
theorem hasPidPrefix_keyText (other : ℤ) :
    hasPidPrefix other (keyText (pid,slot))=decide (pid=other) := by
  unfold hasPidPrefix hasPrefix
  rw [fdMapPrefix_toList,keyText_toList,Bool.eq_iff_iff,List.isPrefixOf_iff_prefix,
    decide_eq_true_iff]
  constructor
  · rintro ⟨rest,hrest⟩
    rw [List.append_assoc] at hrest
    have hsplit := (List.append_cons_inj_of_notMem (colon_notMem_pid pid)
      (colon_notMem_slot slot)).mp hrest.symm
    exact toString_int_injective (String.toList_inj.mp hsplit.1)
  · rintro rfl
    exact ⟨(slotText slot).toList,by rw [List.append_assoc]; rfl⟩

/-- Behind its prefix a key is its slot. -/
theorem trimPrefix_keyText :
    trimPrefix (keyText (pid,slot)) (fdMapPrefix pid)=slotText slot := by
  have hstarts : hasPrefix (keyText (pid,slot)) (fdMapPrefix pid)=true := by
    simpa [hasPidPrefix] using hasPidPrefix_keyText pid slot pid
  unfold trimPrefix
  rw [if_pos hstarts,keyText_toList,fdMapPrefix_toList]
  apply String.toList_inj.mp
  rw [String.toList_ofList]
  simp

/-- An inherited key is the child's key for the same slot. -/
theorem inheritedKey_keyText (childPID : ℤ) :
    inheritedKey pid childPID (keyText (pid,slot))=keyText (childPID,slot) := by
  unfold inheritedKey
  rw [trimPrefix_keyText]
  apply String.toList_inj.mp
  rw [keyText_toList,String.toList_append,String.toList_append]
  simp

/-- The number parsed from a slot is the descriptor's. -/
theorem parseDecimal_slotText : parseDecimal 32 (slotText slot)=slotNumber slot := by
  cases slot with
  | fd n =>
    have hbound : n.toInt < 2^32 := by
      have := n.toInt_lt
      omega
    exact parseDecimal_toString_int hbound
  | cwd => decide

/-- The suffix of a working directory selects exactly the working directories. -/
theorem hasSuffix_keyText : hasSuffix (keyText (pid,slot)) ":cwd"=decide (slot=.cwd) := by
  unfold hasSuffix
  rw [keyText_toList,Bool.eq_iff_iff,List.isSuffixOf_iff_suffix,decide_eq_true_iff]
  constructor
  · rintro ⟨rest,hrest⟩
    have hsplit := (List.append_cons_inj_of_notMem (colon_notMem_pid pid)
      (colon_notMem_slot slot)).mp hrest.symm
    exact slotText_injective (String.toList_inj.mp hsplit.2.2)
  · rintro rfl
    exact ⟨(toString pid).toList,rfl⟩

end Texts

end StraceGo.FDStateKeys

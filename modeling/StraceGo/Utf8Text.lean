import Mathlib.Data.Nat.Notation
import Mathlib.Data.List.Basic

/-!
# UTF-8 texts as bytes

Decoding of one character from the front of a byte sequence, as the `utf8`
package of Go documents it: a byte that starts no character counts as the
replacement character and has width one. A sequence then falls into units, the
bytes of one character each, and its characters are those of its units.
-/

namespace StraceGo.Utf8Text

/-- Bytes of a text. -/
abbrev Bytes : Type := List UInt8

/-- Bytes of a text of characters below 256. -/
def ascii (s : String) : Bytes := s.toList.map fun c => UInt8.ofNat c.toNat

/-- The replacement character. -/
def runeError : ℕ := 0xFFFD

/-- First byte that is no character of its own. -/
def runeSelf : UInt8 := 0x80

/-- Whether a byte continues a character. -/
def isTail (b : UInt8) : Bool := decide (0x80 ≤ b ∧ b ≤ 0xBF)

/-- Whether a byte may follow the first byte of a long character. -/
def isSecond (first b : UInt8) : Bool :=
  decide ((if first=0xE0 then 0xA0 else if first=0xF0 then 0x90 else 0x80) ≤ b ∧
    b ≤ if first=0xED then 0x9F else if first=0xF4 then 0x8F else 0xBF)

/-- First character of a byte sequence with its width. -/
def decodeRune : Bytes → ℕ×ℕ
  | [] => (runeError,0)
  | first::rest =>
    if first < 0x80 then (first.toNat,1)
    else if first < 0xC2 ∨ 0xF4 < first then (runeError,1)
    else if first < 0xE0 then
      match rest with
      | b::_ =>
        if isTail b then ((first.toNat-0xC0)*64+(b.toNat-0x80),2) else (runeError,1)
      | [] => (runeError,1)
    else if first < 0xF0 then
      match rest with
      | b::c::_ =>
        if isSecond first b ∧ isTail c then
          (((first.toNat-0xE0)*64+(b.toNat-0x80))*64+(c.toNat-0x80),3)
        else (runeError,1)
      | _ => (runeError,1)
    else
      match rest with
      | b::c::d::_ =>
        if isSecond first b ∧ isTail c ∧ isTail d then
          ((((first.toNat-0xF0)*64+(b.toNat-0x80))*64+(c.toNat-0x80))*64+(d.toNat-0x80),4)
        else (runeError,1)
      | _ => (runeError,1)

/-- One character of a byte sequence with its bytes. -/
structure RuneUnit where
  /-- The character. -/
  rune : ℕ
  /-- Its bytes. -/
  bytes : Bytes
  deriving DecidableEq, Repr

/-- Units of a byte sequence behind a number of bytes that are skipped. -/
def unitsFrom : ℕ → Bytes → List RuneUnit
  | _,[] => []
  | skip+1,_::rest => unitsFrom skip rest
  | 0,first::rest =>
    ⟨(decodeRune (first::rest)).1,(first::rest).take (decodeRune (first::rest)).2⟩::
      unitsFrom ((decodeRune (first::rest)).2-1) rest

/-- Units of a byte sequence. -/
def units (value : Bytes) : List RuneUnit := unitsFrom 0 value

/-- Whether a unit is a byte that starts no character. -/
def RuneUnit.invalid (unit : RuneUnit) : Bool := unit.rune==runeError && unit.bytes.length==1

/-- Characters of a byte sequence; a byte that starts none is replaced. -/
def runes (value : Bytes) : List Char := (units value).map fun unit => Char.ofNat unit.rune

/-- Width of the first character lies within the sequence. -/
theorem decodeRune_width (first : UInt8) (rest : Bytes) :
    1 ≤ (decodeRune (first::rest)).2 ∧
      (decodeRune (first::rest)).2 ≤ (first::rest).length := by
  unfold decodeRune
  dsimp only
  split_ifs
  · simp
  · simp
  · cases rest with
    | nil => simp
    | cons b rest =>
      dsimp only
      split_ifs <;> simp
  · rcases rest with _ | ⟨b,_ | ⟨c,rest⟩⟩
    · simp
    · simp
    · dsimp only
      split_ifs <;> simp
  · rcases rest with _ | ⟨b,_ | ⟨c,_ | ⟨d,rest⟩⟩⟩
    · simp
    · simp
    · simp
    · dsimp only
      split_ifs <;> simp

/-- An ASCII byte is a character of its own. -/
theorem decodeRune_ascii {first : UInt8} (h : first < 0x80) (rest : Bytes) :
    decodeRune (first::rest)=(first.toNat,1) := by
  unfold decodeRune
  exact if_pos h

/-- A character is determined by its own bytes. -/
theorem decodeRune_take (first : UInt8) (rest other : Bytes)
    (h : decodeRune (first::rest)≠(runeError,1)) :
    decodeRune ((first::rest).take (decodeRune (first::rest)).2 ++ other)=
      decodeRune (first::rest) := by
  unfold decodeRune at h ⊢
  dsimp only at h ⊢
  split_ifs at h ⊢ with hascii hrange htwo hthree
  · simp [hascii]
  · exact absurd rfl h
  · cases rest with
    | nil => exact absurd rfl h
    | cons b rest =>
      dsimp only at h ⊢
      split_ifs at h ⊢ with htail
      · simp [hascii,hrange,htwo,htail]
      · exact absurd rfl h
  · rcases rest with _ | ⟨b,_ | ⟨c,rest⟩⟩
    · exact absurd rfl h
    · exact absurd rfl h
    · dsimp only at h ⊢
      split_ifs at h ⊢ with htail
      · simp [hascii,hrange,htwo,hthree,htail]
      · exact absurd rfl h
  · rcases rest with _ | ⟨b,_ | ⟨c,_ | ⟨d,rest⟩⟩⟩
    · exact absurd rfl h
    · exact absurd rfl h
    · exact absurd rfl h
    · dsimp only at h ⊢
      split_ifs at h ⊢ with htail
      · simp [hascii,hrange,htwo,hthree,htail]
      · exact absurd rfl h

/-- The bytes of a long character behind its first one are no ASCII bytes. -/
theorem decodeRune_tail {first : UInt8} {rest : Bytes} (hfirst : ¬first < 0x80)
    (h : decodeRune (first::rest)≠(runeError,1)) :
    ∀ b∈rest.take ((decodeRune (first::rest)).2-1), 0x80 ≤ b := by
  have htail : ∀ b, isTail b=true → 0x80 ≤ b := by
    intro b hb
    exact (of_decide_eq_true hb).1
  have hsecond : ∀ b, isSecond first b=true → 0x80 ≤ b := by
    intro b hb
    have hlow := (of_decide_eq_true hb).1
    refine UInt8.le_trans ?_ hlow
    split_ifs <;> decide
  unfold decodeRune at h ⊢
  dsimp only at h ⊢
  rw [if_neg hfirst] at h ⊢
  split_ifs at h ⊢ with hrange htwo hthree
  · exact absurd rfl h
  · cases rest with
    | nil => simp
    | cons b rest =>
      dsimp only at h ⊢
      split_ifs at h ⊢ with hvalid
      · simpa using htail b hvalid
      · exact absurd rfl h
  · rcases rest with _ | ⟨b,_ | ⟨c,rest⟩⟩
    · simp
    · exact absurd rfl h
    · dsimp only at h ⊢
      split_ifs at h ⊢ with hvalid
      · simpa using And.intro (hsecond b hvalid.1) (htail c hvalid.2)
      · exact absurd rfl h
  · rcases rest with _ | ⟨b,_ | ⟨c,_ | ⟨d,rest⟩⟩⟩
    · simp
    · exact absurd rfl h
    · exact absurd rfl h
    · dsimp only at h ⊢
      split_ifs at h ⊢ with hvalid
      · simpa using And.intro (hsecond b hvalid.1)
          (And.intro (htail c hvalid.2.1) (htail d hvalid.2.2))
      · exact absurd rfl h

/-- A unit holds the first character of some bytes. -/
theorem exists_of_mem_unitsFrom {skip : ℕ} {value : Bytes} {unit : RuneUnit}
    (h : unit∈unitsFrom skip value) :
    ∃ first rest, unit=⟨(decodeRune (first::rest)).1,
      (first::rest).take (decodeRune (first::rest)).2⟩ := by
  induction value generalizing skip with
  | nil =>
    cases skip <;> exact absurd h (by simp [unitsFrom])
  | cons first rest ih =>
    cases skip with
    | succ skip => exact ih h
    | zero =>
      rw [unitsFrom,List.mem_cons] at h
      rcases h with rfl | h
      · exact ⟨first,rest,rfl⟩
      · exact ih h

/-- ASCII bytes are their characters. -/
theorem runes_ascii {value : Bytes} (h : ∀ b∈value, b < 0x80) :
    runes value=value.map fun b => Char.ofNat b.toNat := by
  unfold runes units
  induction value with
  | nil => rfl
  | cons first rest ih =>
    rw [List.forall_mem_cons] at h
    rw [unitsFrom,decodeRune_ascii h.1,List.map_cons,List.map_cons]
    exact congrArg _ (ih h.2)

end StraceGo.Utf8Text

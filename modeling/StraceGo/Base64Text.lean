import StraceGo.Utf8Text

/-!
# Standard base64 texts

The standard alphabet with padding: three bytes become four characters, and a
shorter last group is padded. The text decodes to the bytes it was made from
and uses the characters of the alphabet alone.
-/

namespace StraceGo.Base64Text

open Utf8Text

/-- Character of six bits in the standard alphabet. -/
def base64Char (value : ℕ) : UInt8 :=
  if value < 26 then 65+value.toUInt8
  else if value < 52 then 71+value.toUInt8
  else if value < 62 then value.toUInt8-4
  else if value=62 then 43 else 47

/-- Six bits of a character. -/
def base64Value (char : UInt8) : Option ℕ :=
  if 65 ≤ char ∧ char ≤ 90 then some (char.toNat-65)
  else if 97 ≤ char ∧ char ≤ 122 then some (char.toNat-71)
  else if 48 ≤ char ∧ char ≤ 57 then some (char.toNat+4)
  else if char=43 then some 62
  else if char=47 then some 63
  else none

/-- Standard base64 text of bytes, with padding. -/
def base64 : Bytes → Bytes
  | a::b::c::rest =>
    base64Char (a.toNat/4)::base64Char (a.toNat%4*16+b.toNat/16)::
      base64Char (b.toNat%16*4+c.toNat/64)::base64Char (c.toNat%64)::base64 rest
  | [a,b] =>
    [base64Char (a.toNat/4),base64Char (a.toNat%4*16+b.toNat/16),base64Char (b.toNat%16*4),61]
  | [a] => [base64Char (a.toNat/4),base64Char (a.toNat%4*16),61,61]
  | [] => []

/-- Bytes of a base64 text. -/
def decodeBase64 : Bytes → Option Bytes
  | [] => some []
  | p::q::r::s::rest =>
    match base64Value p,base64Value q with
    | some w,some x =>
      if s=61 then
        if rest≠[] then none
        else if r=61 then some [(w*4+x/16).toUInt8]
        else (base64Value r).map fun y => [(w*4+x/16).toUInt8,(x%16*16+y/4).toUInt8]
      else
        match base64Value r,base64Value s,decodeBase64 rest with
        | some y,some z,some bytes =>
          some ((w*4+x/16).toUInt8::(x%16*16+y/4).toUInt8::(y%4*64+z).toUInt8::bytes)
        | _,_,_ => none
    | _,_ => none
  | _ => none

theorem base64Value_base64Char {value : ℕ} (h : value < 64) :
    base64Value (base64Char value)=some value := by
  have hall : ∀ value < 64, base64Value (base64Char value)=some value := by decide
  exact hall value h

theorem base64Char_ne_padding {value : ℕ} (h : value < 64) : base64Char value≠61 := by
  have hall : ∀ value < 64, base64Char value≠61 := by decide
  exact hall value h

theorem toUInt8_eq {n : ℕ} (byte : UInt8) (h : n=byte.toNat) : n.toUInt8=byte := by
  rw [h]
  exact UInt8.ofNat_toNat

/-- The text decodes to its bytes. -/
theorem decodeBase64_base64 (bytes : Bytes) : decodeBase64 (base64 bytes)=some bytes := by
  fun_induction base64 bytes with
  | case1 a b c rest ih =>
    have ha := a.toNat_lt
    have hb := b.toNat_lt
    have hc := c.toNat_lt
    unfold decodeBase64
    rw [base64Value_base64Char (by omega),base64Value_base64Char (by omega),
      base64Value_base64Char (by omega),base64Value_base64Char (by omega),ih]
    dsimp only
    rw [if_neg (base64Char_ne_padding (by omega)),toUInt8_eq a (by omega),toUInt8_eq b (by omega),
      toUInt8_eq c (by omega)]
  | case2 a b =>
    have ha := a.toNat_lt
    have hb := b.toNat_lt
    unfold decodeBase64
    rw [base64Value_base64Char (by omega),base64Value_base64Char (by omega),
      base64Value_base64Char (by omega)]
    dsimp only
    rw [if_pos rfl,if_neg (by simp),if_neg (base64Char_ne_padding (by omega)),Option.map_some,
      toUInt8_eq a (by omega),toUInt8_eq b (by omega)]
  | case3 a =>
    have ha := a.toNat_lt
    unfold decodeBase64
    rw [base64Value_base64Char (by omega),base64Value_base64Char (by omega)]
    dsimp only
    rw [if_pos rfl,if_neg (by simp),if_pos rfl,toUInt8_eq a (by omega)]
  | case4 => rfl

/-- Characters of the alphabet and the padding. -/
def isBase64Char (char : UInt8) : Bool := (base64Value char).isSome || char==61

/-- The text uses the characters of the alphabet alone. -/
theorem base64_alphabet (bytes : Bytes) : ∀ char∈base64 bytes, isBase64Char char=true := by
  have hchar : ∀ value < 64, isBase64Char (base64Char value)=true := by decide
  fun_induction base64 bytes with
  | case1 a b c rest ih =>
    have ha := a.toNat_lt
    have hb := b.toNat_lt
    have hc := c.toNat_lt
    simp only [List.forall_mem_cons]
    exact ⟨hchar _ (by omega),hchar _ (by omega),hchar _ (by omega),hchar _ (by omega),ih⟩
  | case2 a b =>
    have ha := a.toNat_lt
    have hb := b.toNat_lt
    simp only [List.forall_mem_cons]
    exact ⟨hchar _ (by omega),hchar _ (by omega),hchar _ (by omega),by decide,by simp⟩
  | case3 a =>
    have ha := a.toNat_lt
    simp only [List.forall_mem_cons]
    exact ⟨hchar _ (by omega),hchar _ (by omega),by decide,by decide,by simp⟩
  | case4 => simp

/-- Only no bytes have the empty text. -/
theorem base64_eq_nil {bytes : Bytes} (h : base64 bytes=[]) : bytes=[] := by
  have hbytes := decodeBase64_base64 bytes
  rw [h] at hbytes
  exact (Option.some.inj hbytes).symm

end StraceGo.Base64Text

import StraceGo.JoinedCodes
import StraceGo.StringRendering

/-!
# Reading escaped buffers

What can be recovered from the text of a buffer. Hexadecimal escapes have a
fixed width, so that the first byte of a text is certain. Octal escapes have one
to three digits: a digit behind a shorter escape can belong to it, and the bytes
are recovered exactly if no printed neighbours look like another byte and no
escape of several digits could stand for two printed bytes.
-/

namespace StraceGo.EscapedBuffers

open GoText JoinedCodes StringRendering

section Definitions

/-- Bytes of a buffer that are printed. -/
def printedBytes (data : List UInt8) (limit : ℤ) : List UInt8 :=
  data.take (printedLength data.length limit)

/-- The quotation mark. -/
def quote : Char := Char.ofNat 34

/-- Text between quotation marks, and what stands behind it. -/
structure QuotedText where
  /-- The quoted part. -/
  body : List Char
  /-- What follows the closing quotation mark. -/
  suffix : List Char

/-- Quoted text with more in front. -/
def QuotedText.prepend (front : List Char) (text : QuotedText) : QuotedText :=
  ⟨front ++ text.body,text.suffix⟩

/-- Read up to the first quotation mark that no backslash escapes. -/
def readBody : List Char → Option QuotedText
  | [] => none
  | c::rest =>
    if c=quote then some ⟨[],rest⟩
    else if c= '\\' then
      match rest with
      | [] => none
      | e::behind => (readBody behind).map (QuotedText.prepend [c,e])
    else (readBody rest).map (QuotedText.prepend [c])

/-- Read a text that starts with a quotation mark. -/
def readQuoted (text : String) : Option QuotedText :=
  match text.toList with
  | [] => none
  | c::rest => if c=quote then readBody rest else none

/-- The quoted part of the text of a buffer. -/
def quotedPart (data : List UInt8) (limit actualLen escapeMode : ℤ) : Option (List Char) :=
  (readQuoted (bufferEscape data limit actualLen escapeMode)).map (·.body)

/-- What the text of a buffer promises to its reader. -/
structure Readable (data : List UInt8) (limit actualLen escapeMode : ℤ) : Prop where
  /-- No other buffer has its quoted part, unless it prints the same bytes. -/
  unambiguous : ∀ other otherLen, quotedPart other limit otherLen escapeMode=
    quotedPart data limit actualLen escapeMode → printedBytes other limit=printedBytes data limit
  /-- The quoted part is plain text and ends at the first quotation mark without an escape. -/
  closed : ∃ body suffix, bufferEscape data limit actualLen escapeMode=
      String.ofList (quote::body ++ quote::suffix) ∧
    quotedPart data limit actualLen escapeMode=some body ∧ ∀ c∈body, 32 ≤ c.toNat ∧ c.toNat ≤ 126
  /-- Dots follow exactly if bytes are missing. -/
  dots : (readQuoted (bufferEscape data limit actualLen escapeMode)).map (·.suffix)=
    some (if ((printedBytes data limit).length : ℤ) < actualLen ∨
      (printedBytes data limit).length < data.length then ['.','.','.'] else [])

/-- Byte whose octal escape is that of a byte with a digit behind it. -/
def octalJoined (x c : UInt8) : Option UInt8 :=
  let value := 8*x.toNat+(c.toNat-48)
  if unprintable x=true ∧ 0 < x.toNat ∧ 48 ≤ c.toNat ∧ c.toNat ≤ 55 ∧ value < 256 ∧
      unprintable (UInt8.ofNat value)=true then
    some (UInt8.ofNat value)
  else none

/-- No printed bytes are written as one other byte, and none as two where there is room. -/
structure OctalCertain (data : List UInt8) (limit : ℤ) : Prop where
  /-- No digit behind an escape continues it. -/
  apart : ∀ front x c rest, printedBytes data limit=front ++ x::c::rest → octalJoined x c=none
  /-- An escape of several digits leaves no room for one more byte. -/
  full : ∀ b∈printedBytes data limit, unprintable b=true → 8 ≤ b.toNat →
    0 < limit ∧ limit ≤ data.length

end Definitions

section Bytes

/-- Bytes without a text of their own, as numbers. -/
theorem unprintable_iff_toNat (b : UInt8) : unprintable b=true ↔
    b.toNat < 9 ∨ (13 < b.toNat ∧ b.toNat < 32) ∨ 126 < b.toNat := by
  unfold unprintable
  simp only [UInt8.le_iff_toNat_le,← UInt8.toNat_inj,UInt8.reduceToNat,Bool.and_eq_true,
    Bool.not_eq_true',Bool.or_eq_false_iff,beq_eq_false_iff_ne,ne_eq,Bool.and_eq_false_iff,
    decide_eq_false_iff_not]
  omega

theorem toNat_ofNat {n : ℕ} (h : n ≤ 126) : (Char.ofNat n).toNat=n := by
  have hvalid : n.isValidChar := Or.inl (by omega)
  rw [Char.ofNat,dif_pos hvalid]
  rfl

/-- The byte that a short escape stands for. -/
def unescape (c : Char) : UInt8 :=
  if c= 'n' then 10 else if c= 'r' then 13 else if c= 't' then 9 else if c= 'v' then 11
  else if c= 'f' then 12 else if c= '\\' then 92 else 34

/-- A short escape is a backslash and a character that is neither a digit nor the letter of the
hexadecimal ones. -/
theorem shortEscape_some {b : UInt8} {text : List Char} (h : shortEscape b=some text) :
    ∃ c, text=['\\',c] ∧ unescape c=b ∧ c.isDigit=false ∧ c≠ 'x' ∧ 32 ≤ c.toNat ∧
      c.toNat ≤ 126 := by
  unfold shortEscape at h
  split_ifs at h <;> subst b <;> exact ⟨_,(Option.some.inj h).symm,by decide⟩

/-- A byte with a text of its own has a short escape or is its own character. -/
theorem plain_text {b : UInt8} (hb : unprintable b=false) :
    (∃ text, shortEscape b=some text ∧ Rendering.plain.text b=text) ∨
      shortEscape b=none ∧ Rendering.plain.text b=[Char.ofNat b.toNat] ∧
        (Char.ofNat b.toNat).toNat=b.toNat ∧ 32 ≤ b.toNat ∧ b.toNat ≤ 126 := by
  change (∃ text, shortEscape b=some text ∧ (shortEscape b).getD _=text) ∨
    shortEscape b=none ∧ (shortEscape b).getD _=_ ∧ _
  cases hshort : shortEscape b with
  | some text => exact Or.inl ⟨text,rfl,rfl⟩
  | none =>
    have hrange : 32 ≤ b ∧ b ≤ 126 := by
      by_contra hrange
      have hnone := (unprintable_iff b).mpr ⟨hshort,hrange⟩
      rw [hb] at hnone
      exact Bool.noConfusion hnone
    rw [UInt8.le_iff_toNat_le,UInt8.le_iff_toNat_le] at hrange
    exact Or.inr ⟨rfl,rfl,toNat_ofNat hrange.2,hrange⟩

/-- Value of a hexadecimal digit. -/
def digitValue (c : Char) : ℕ := if c.isDigit=true then c.toNat-48 else c.toNat-87

theorem digitValue_digitChar : ∀ n < 16, digitValue (Nat.digitChar n)=n := by
  decide

theorem digitChar_range : ∀ n < 16, 32 ≤ (Nat.digitChar n).toNat ∧ (Nat.digitChar n).toNat ≤ 126 ∧
    Nat.digitChar n≠quote ∧ Nat.digitChar n≠ '\\' := by
  decide

/-- First byte of a text without octal escapes. -/
def headByte : List Char → UInt8
  | '\\':: 'x'::high::low::_ => UInt8.ofNat (16*digitValue high+digitValue low)
  | '\\'::c::_ => unescape c
  | c::_ => UInt8.ofNat c.toNat
  | [] => 0

/-- The first byte of a text in hexadecimal is certain. -/
theorem headByte_hex (b : UInt8) (rest : List Char) :
    headByte (Rendering.hex.text b ++ rest)=b := by
  have hbyte := b.toNat_lt
  change UInt8.ofNat (16*digitValue (Nat.digitChar (b.toNat/16))+
    digitValue (Nat.digitChar (b.toNat%16)))=b
  rw [digitValue_digitChar _ (by omega),digitValue_digitChar _ (by omega),Nat.div_add_mod,
    UInt8.ofNat_toNat]

/-- The first byte of a plain text is certain. -/
theorem headByte_plain {b : UInt8} (hb : unprintable b=false) (rest : List Char) :
    headByte (Rendering.plain.text b ++ rest)=b := by
  rcases plain_text hb with ⟨text,hshort,htext⟩ | ⟨hshort,htext,hchar,hrange⟩
  · rcases shortEscape_some hshort with ⟨c,rfl,hbyte,-,hc,-⟩
    rw [htext]
    change headByte ('\\'::c::rest)=b
    unfold headByte
    split
    · rename_i heq
      rw [List.cons.injEq,List.cons.injEq] at heq
      exact absurd heq.2.1 hc
    · rename_i heq
      rw [List.cons.injEq,List.cons.injEq] at heq
      rw [← heq.2.1]
      exact hbyte
    · rename_i hother heq
      rw [List.cons.injEq] at heq
      exact absurd heq.2.symm (hother _ _ heq.1.symm)
    · rename_i heq
      exact absurd heq (List.cons_ne_nil _ _)
  · have hne := ofNat_ne_backslash hshort (UInt8.le_iff_toNat_le.mpr hrange.2)
    rw [htext]
    change headByte (Char.ofNat b.toNat::rest)=b
    unfold headByte
    split
    · rename_i heq
      rw [List.cons.injEq] at heq
      exact absurd heq.1 hne
    · rename_i heq
      rw [List.cons.injEq] at heq
      exact absurd heq.1 hne
    · rename_i heq
      rw [List.cons.injEq] at heq
      rw [← heq.1,hchar,UInt8.ofNat_toNat]
    · rename_i heq
      exact absurd heq (List.cons_ne_nil _ _)

end Bytes

section Octal

theorem toDigits_injective {m n : ℕ} (h : Nat.toDigits 8 m=Nat.toDigits 8 n) : m=n := by
  rw [← Nat.ofDigitChars_toDigits (n := m) (by decide : 1 < 8) (by decide),h]
  exact Nat.ofDigitChars_toDigits (by decide) (by decide)

/-- Digits that continue the octal escape of a byte to that of another byte: the first of them
alone already does. -/
theorem octal_extension {x y : ℕ} (hy : y < 256) (hname : y < 9 ∨ (13 < y ∧ y < 32) ∨ 126 < y)
    {d : Char} {digits : List Char} (h : Nat.toDigits 8 y=Nat.toDigits 8 x ++ d::digits) :
    0 < x ∧ ∃ v < 8, d=Nat.digitChar v ∧ 8*x+v < 256 ∧
      (8*x+v < 9 ∨ (13 < 8*x+v ∧ 8*x+v < 32) ∨ 126 < 8*x+v) := by
  induction y using Nat.strongRecOn generalizing digits with
  | ind y ih =>
    have hpos : 0 < (Nat.toDigits 8 x).length := Nat.length_toDigits_pos
    have hlength := congrArg List.length h
    rw [List.length_append,List.length_cons] at hlength
    have hlong : 8 ≤ y := by
      by_contra hshort
      rw [Nat.toDigits_of_lt_base (by omega),List.length_singleton] at hlength
      omega
    rw [Nat.toDigits_of_base_le (by decide) hlong] at h
    rcases List.eq_nil_or_concat digits with hnil | ⟨init,last,hlast⟩
    · rw [hnil] at h
      have hparts := List.append_inj' h rfl
      have hx := toDigits_injective hparts.1
      have hd := (List.cons.inj hparts.2).1
      refine ⟨by omega,y%8,Nat.mod_lt _ (by decide),hd.symm,?_⟩
      have hvalue : 8*x+y%8=y := by omega
      rw [hvalue]
      exact ⟨hy,hname⟩
    · rw [hlast,List.concat_eq_append,← List.cons_append,← List.append_assoc] at h
      have hfront := (List.append_inj' h rfl).1
      have htwo : 8 ≤ y/8 := by
        by_contra hshort
        have hone := congrArg List.length hfront
        rw [Nat.toDigits_of_lt_base (by omega),List.length_singleton,List.length_append,
          List.length_cons] at hone
        omega
      exact ih (y/8) (by omega) (by omega) (by omega) hfront

/-- A plain byte whose text starts with a digit is that digit. -/
theorem digit_of_plain {c : UInt8} (hc : unprintable c=false) {v : ℕ} (hv : v < 8)
    {rest tail : List Char} (h : Rendering.plain.text c ++ rest=Nat.digitChar v::tail) :
    c.toNat=48+v := by
  have hdigit := Nat.toNat_digitChar_of_lt_ten (n := v) (by omega)
  rcases plain_text hc with ⟨text,hshort,htext⟩ | ⟨-,htext,hchar,-⟩
  · rcases shortEscape_some hshort with ⟨e,rfl,-⟩
    rw [htext] at h
    have hslash := (List.cons.inj h).1
    rw [← hslash] at hdigit
    change 92=48+v at hdigit
    omega
  · rw [htext] at h
    rw [← (List.cons.inj h).1,hchar] at hdigit
    exact hdigit

/-- An octal escape does not start with a digit. -/
theorem octal_ne_digit (c : UInt8) {v : ℕ} (hv : v < 8) {rest tail : List Char} :
    Rendering.octal.text c ++ rest≠Nat.digitChar v::tail := by
  intro h
  have hdigit := Nat.toNat_digitChar_of_lt_ten (n := v) (by omega)
  rw [← (List.cons.inj h).1] at hdigit
  change 92=48+v at hdigit
  omega

/-- A plain text does not start as an octal escape. -/
theorem plain_ne_octal {b : UInt8} (hb : unprintable b=false) (c : UInt8)
    (first second : List Char) :
    Rendering.plain.text b ++ first≠Rendering.octal.text c ++ second := by
  intro h
  change _=octalEscape c ++ second at h
  unfold octalEscape at h
  rcases plain_text hb with ⟨text,hshort,htext⟩ | ⟨hshort,htext,-,hrange⟩
  · rcases shortEscape_some hshort with ⟨e,rfl,-,hdigit,-⟩
    rw [htext] at h
    cases hdigits : Nat.toDigits 8 c.toNat with
    | nil => exact absurd hdigits Nat.toDigits_ne_nil
    | cons digit rest =>
      have hfirst : digit.isDigit=true :=
        Nat.isDigit_of_mem_toDigits (by decide) (by decide) (hdigits ▸ List.mem_cons_self)
      rw [hdigits] at h
      rw [← (List.cons.inj (List.cons.inj h).2).1,hdigit] at hfirst
      exact Bool.noConfusion hfirst
  · rw [htext] at h
    exact ofNat_ne_backslash hshort (UInt8.le_iff_toNat_le.mpr hrange.2) (List.cons.inj h).1

/-- What a byte and a digit that continue to another byte satisfy. -/
theorem octalJoined_some {x c z : UInt8} (h : octalJoined x c=some z) :
    unprintable x=true ∧ unprintable z=true ∧ unprintable c=false ∧ 0 < x.toNat ∧
      48 ≤ c.toNat ∧ c.toNat ≤ 55 ∧ z.toNat=8*x.toNat+(c.toNat-48) := by
  unfold octalJoined at h
  dsimp only at h
  split_ifs at h with hjoin
  rcases hjoin with ⟨hx,hpos,hlow,hhigh,hvalue,hz⟩
  have hc : unprintable c=false := by
    rw [← Bool.not_eq_true,unprintable_iff_toNat]
    omega
  rw [← Option.some.inj h]
  refine ⟨hx,hz,hc,hpos,hlow,hhigh,?_⟩
  rw [UInt8.toNat_ofNat']
  exact Nat.mod_eq_of_lt hvalue

/-- A byte is written as two exactly if its octal escape has several digits. -/
theorem splits_iff (z : UInt8) :
    (∃ x c, octalJoined x c=some z) ↔ unprintable z=true ∧ 8 ≤ z.toNat := by
  constructor
  · rintro ⟨x,c,h⟩
    have hjoin := octalJoined_some h
    exact ⟨hjoin.2.1,by omega⟩
  · rintro ⟨hz,hlong⟩
    have hbyte := z.toNat_lt
    have hname := (unprintable_iff_toNat z).mp hz
    have hx : (UInt8.ofNat (z.toNat/8)).toNat=z.toNat/8 := by
      rw [UInt8.toNat_ofNat']
      omega
    have hc : (UInt8.ofNat (48+z.toNat%8)).toNat=48+z.toNat%8 := by
      rw [UInt8.toNat_ofNat']
      omega
    have hvalue : 8*(z.toNat/8)+(48+z.toNat%8-48)=z.toNat := by omega
    refine ⟨UInt8.ofNat (z.toNat/8),UInt8.ofNat (48+z.toNat%8),?_⟩
    unfold octalJoined
    dsimp only
    rw [hx,hc,hvalue,UInt8.ofNat_toNat]
    apply if_pos
    refine ⟨?_,by omega,by omega,by omega,hbyte,hz⟩
    rw [unprintable_iff_toNat,hx]
    omega

/-- The digit of a joined byte is written behind the escape of the first byte. -/
theorem octalEscape_joined {x c z : UInt8} (h : octalJoined x c=some z) :
    octalEscape z=octalEscape x ++ Rendering.plain.text c := by
  rcases octalJoined_some h with ⟨-,-,hc,hpos,hlow,hhigh,hvalue⟩
  have hdigit : Rendering.plain.text c=[Nat.digitChar (z.toNat%8)] := by
    rcases plain_text hc with ⟨text,hshort,-⟩ | ⟨-,htext,hchar,-⟩
    · have hnone : shortEscape c=none := by
        unfold shortEscape
        simp only [← UInt8.toNat_inj,UInt8.reduceToNat]
        split_ifs <;> first | rfl | omega
      rw [hnone] at hshort
      exact absurd hshort.symm (Option.some_ne_none _)
    · rw [htext]
      have hsame : Char.ofNat c.toNat=Nat.digitChar (z.toNat%8) := by
        apply Char.ext
        apply UInt32.toNat_inj.mp
        change (Char.ofNat c.toNat).toNat=(Nat.digitChar (z.toNat%8)).toNat
        rw [hchar,Nat.toNat_digitChar_of_lt_ten (by omega)]
        omega
      rw [hsame]
  have hfront : z.toNat/8=x.toNat := by omega
  unfold octalEscape
  rw [Nat.toDigits_of_base_le (by decide) (by omega),hfront,hdigit,List.append_assoc]

end Octal

section Codes

/-- Mode that a text in one mode alone has: without printed bytes no mode changes. -/
theorem escapeByte_rendering (m : ℤ) (b : UInt8) : escapeByte m b=(rendering m [] b).text b := by
  have hmode : effectiveMode m []=m := by
    unfold effectiveMode
    apply if_neg
    rintro ⟨-,hany⟩
    exact Bool.noConfusion hany
  have hbyte := escapeByte_eq m [] b
  rw [hmode] at hbyte
  exact hbyte

/-- Modes that never write in octal. -/
def NoOctal (m : ℤ) : Prop := m=1 ∨ m=2 ∨ m=escapeModeHexNonASCIIChars

/-- How a byte is written in octal mode. -/
theorem escapeByte_octal {m : ℤ} (hm : ¬NoOctal m) (b : UInt8) :
    escapeByte m b=
      if unprintable b=true then Rendering.octal.text b else Rendering.plain.text b := by
  unfold NoOctal at hm
  rw [not_or,not_or] at hm
  have hmode : effectiveMode m []=m := if_neg fun h => hm.1 h.1
  rw [escapeByte_rendering]
  unfold rendering
  rw [hmode,if_neg hm.2.1]
  cases hb : unprintable b with
  | false => rw [if_pos rfl,if_neg Bool.false_ne_true]
  | true =>
    rw [if_neg (by decide),if_pos rfl,if_neg]
    rw [not_or]
    exact ⟨hm.1,hm.2.2⟩

/-- The first byte of a text is certain in a mode without octal escapes. -/
theorem headByte_escapeByte {m : ℤ} (hm : NoOctal m) (b : UInt8) (rest : List Char) :
    headByte (escapeByte m b ++ rest)=b := by
  have hadmits := rendering_admits m [] b
  rw [escapeByte_rendering]
  cases hform : rendering m [] b with
  | plain =>
    rw [hform] at hadmits
    exact headByte_plain (hadmits.1 rfl) rest
  | hex => exact headByte_hex b rest
  | octal =>
    unfold rendering at hform
    split_ifs at hform with hall hplain hhex
    rcases hm with h | h | h
    · exact absurd (Or.inl h) hhex
    · rw [h] at hall
      exact absurd rfl hall
    · exact absurd (Or.inr h) hhex

/-- No byte has an empty text. -/
theorem escapeByte_ne_nil (m : ℤ) (b : UInt8) : escapeByte m b≠[] := by
  rw [escapeByte_rendering]
  cases hform : rendering m [] b with
  | plain =>
    have hadmits := rendering_admits m [] b
    rw [hform] at hadmits
    rcases plain_text (hadmits.1 rfl) with ⟨text,hshort,htext⟩ | ⟨-,htext,-⟩
    · rcases shortEscape_some hshort with ⟨c,rfl,-⟩
      rw [htext]
      exact List.cons_ne_nil _ _
    · rw [htext]
      exact List.cons_ne_nil _ _
  | hex => exact List.cons_ne_nil _ _
  | octal => exact List.cons_ne_nil _ _

/-- The code of a mode without octal escapes joins nothing. -/
def fixedCode (m : ℤ) (hm : NoOctal m) : JoinedCode UInt8 Char where
  word := escapeByte m
  joined _ _ := none
  word_ne_nil := escapeByte_ne_nil m
  word_joined h := absurd h.symm (Option.some_ne_none _)
  overlap h := by
    have hhead := congrArg headByte h
    rw [headByte_escapeByte hm,headByte_escapeByte hm] at hhead
    exact Or.inl hhead

/-- A digit that continues an octal escape is one of the printed bytes behind it. -/
theorem joined_of_extension {m : ℤ} (hm : ¬NoOctal m) {x y : UInt8} (hx : unprintable x=true)
    (hy : unprintable y=true) {d : Char} {digits rest : List Char} {p : List UInt8}
    (hdigits : Nat.toDigits 8 y.toNat=Nat.toDigits 8 x.toNat ++ d::digits)
    (hp : p.flatMap (escapeByte m)=d::digits ++ rest) :
    ∃ c tail z, p=c::tail ∧ octalJoined x c=some z := by
  have hname := (unprintable_iff_toNat y).mp hy
  rcases octal_extension y.toNat_lt hname hdigits with ⟨hpos,v,hv,hd,hbound,hvalue⟩
  rw [hd] at hp
  cases p with
  | nil => exact absurd hp.symm (List.cons_ne_nil _ _)
  | cons c tail =>
    rw [List.flatMap_cons,escapeByte_octal hm] at hp
    split_ifs at hp with hc
    · exact absurd hp (octal_ne_digit c hv)
    · have hdigit := digit_of_plain (Bool.not_eq_true _ ▸ hc) hv hp
      have hoffset : c.toNat-48=v := by omega
      refine ⟨c,tail,UInt8.ofNat (8*x.toNat+v),rfl,?_⟩
      unfold octalJoined
      dsimp only
      rw [hoffset]
      apply if_pos
      refine ⟨hx,hpos,by omega,by omega,hbound,?_⟩
      rw [unprintable_iff_toNat,UInt8.toNat_ofNat',Nat.mod_eq_of_lt hbound]
      exact hvalue

/-- The code of a mode with octal escapes. -/
def octalCode (m : ℤ) (hm : ¬NoOctal m) : JoinedCode UInt8 Char where
  word := escapeByte m
  joined := octalJoined
  word_ne_nil := escapeByte_ne_nil m
  word_joined {x c z} h := by
    have hjoin := octalJoined_some h
    rw [escapeByte_octal hm,escapeByte_octal hm,escapeByte_octal hm,if_pos hjoin.1,
      if_pos hjoin.2.1,hjoin.2.2.1,if_neg Bool.false_ne_true]
    exact octalEscape_joined h
  overlap {x y p q} h := by
    rw [escapeByte_octal hm x,escapeByte_octal hm y] at h
    cases hx : unprintable x with
    | false =>
      rw [hx,if_neg Bool.false_ne_true] at h
      cases hy : unprintable y with
      | false =>
        rw [hy,if_neg Bool.false_ne_true] at h
        have hhead := congrArg headByte h
        rw [headByte_plain hx,headByte_plain hy] at hhead
        exact Or.inl hhead
      | true =>
        rw [hy,if_pos rfl] at h
        exact absurd h (plain_ne_octal hx y _ _)
    | true =>
      rw [hx,if_pos rfl] at h
      cases hy : unprintable y with
      | false =>
        rw [hy,if_neg Bool.false_ne_true] at h
        exact absurd h.symm (plain_ne_octal hy x _ _)
      | true =>
        rw [hy,if_pos rfl] at h
        have hdigits := (List.cons.inj h).2
        change Nat.toDigits 8 x.toNat ++ _=Nat.toDigits 8 y.toNat ++ _ at hdigits
        rcases List.append_eq_append_iff.mp hdigits with ⟨more,hmore,hrest⟩ | ⟨more,hmore,hrest⟩
        · cases more with
          | nil =>
            rw [List.append_nil] at hmore
            exact Or.inl (UInt8.toNat_inj.mp (toDigits_injective hmore)).symm
          | cons d digits =>
            exact Or.inr (Or.inl (joined_of_extension hm hx hy hmore hrest))
        · cases more with
          | nil =>
            rw [List.append_nil] at hmore
            exact Or.inl (UInt8.toNat_inj.mp (toDigits_injective hmore))
          | cons d digits =>
            exact Or.inr (Or.inr (joined_of_extension hm hy hx hmore hrest))

/-- Mode one writes plain bytes in place, or all in hexadecimal. -/
theorem effectiveMode_one (text : List UInt8) :
    effectiveMode 1 text=1 ∧ (∀ b∈text, unprintable b=false) ∨ effectiveMode 1 text=2 := by
  unfold effectiveMode
  split_ifs with hany
  · exact Or.inr rfl
  · refine Or.inl ⟨rfl,fun b hb => ?_⟩
    rw [← Bool.not_eq_true]
    intro hbyte
    exact hany ⟨rfl,List.any_eq_true.mpr ⟨b,hb,hbyte⟩⟩

/-- A text in plain bytes is no text in hexadecimal. -/
theorem eq_of_plain_of_hex {p q : List UInt8} (hp : ∀ b∈p, unprintable b=false)
    (h : p.flatMap (escapeByte 1)=q.flatMap (escapeByte 2)) : p=q := by
  cases p with
  | nil => exact ((fixedCode 2 (Or.inr (Or.inl rfl))).write_eq_nil h.symm).symm
  | cons b p =>
    cases q with
    | nil => exact (fixedCode 1 (Or.inl rfl)).write_eq_nil h
    | cons c q =>
      have hb := hp b List.mem_cons_self
      have hplain : escapeByte 1 b=Rendering.plain.text b := by
        rw [escapeByte_rendering]
        unfold rendering
        rw [if_neg (by decide),if_pos hb]
      rw [List.flatMap_cons,List.flatMap_cons,hplain] at h
      exact absurd h (plain_ne_hex hb c _ _)

/-- In a mode without octal escapes, buffers with the same text print the same bytes. -/
theorem printed_of_fixed {m : ℤ} (hm : NoOctal m) {p q : List UInt8}
    (h : p.flatMap (escapeByte (effectiveMode m p))=q.flatMap (escapeByte (effectiveMode m q))) :
    p=q := by
  by_cases hone : m=1
  · rw [hone] at h
    rcases effectiveMode_one p with ⟨hp,hplain⟩ | hp
    · rcases effectiveMode_one q with ⟨hq,-⟩ | hq
      · rw [hp,hq] at h
        exact (fixedCode 1 (Or.inl rfl)).write_injective (fun _ _ => rfl) h
      · rw [hp,hq] at h
        exact eq_of_plain_of_hex hplain h
    · rcases effectiveMode_one q with ⟨hq,hplain⟩ | hq
      · rw [hp,hq] at h
        exact (eq_of_plain_of_hex hplain h.symm).symm
      · rw [hp,hq] at h
        exact (fixedCode 2 (Or.inr (Or.inl rfl))).write_injective (fun _ _ => rfl) h
  · have hsame : ∀ text, effectiveMode m text=m := fun text => if_neg fun hand => hone hand.1
    rw [hsame,hsame] at h
    exact (fixedCode m hm).write_injective (fun _ _ => rfl) h

end Codes

section Quoting

/-- A text without a quotation mark of its own is read through. -/
def Closed (text : List Char) : Prop :=
  ∀ rest, readBody (text ++ rest)=(readBody rest).map (QuotedText.prepend text)

theorem closed_char {c : Char} (hquote : c≠quote) (hslash : c≠ '\\') : Closed [c] := by
  intro rest
  rw [List.singleton_append,readBody.eq_def]
  dsimp only
  rw [if_neg hquote,if_neg hslash]

theorem closed_escape (e : Char) : Closed ['\\',e] := by
  intro rest
  change readBody ('\\'::e::rest)=_
  rw [readBody.eq_def]
  dsimp only
  rw [if_neg (by decide),if_pos rfl]

theorem closed_append {front rest : List Char} (hfront : Closed front) (hrest : Closed rest) :
    Closed (front ++ rest) := by
  intro behind
  rw [List.append_assoc,hfront,hrest,Option.map_map]
  congr 1
  funext text
  change QuotedText.mk (front ++ (rest ++ text.body)) text.suffix=_
  rw [← List.append_assoc]
  rfl

theorem closed_nil : Closed [] := by
  intro rest
  rw [List.nil_append]
  exact (Option.map_id_apply).symm

/-- Characters that are neither marks nor backslashes are read through. -/
theorem closed_of_forall {text : List Char} (h : ∀ c∈text, c≠quote ∧ c≠ '\\') : Closed text := by
  induction text with
  | nil => exact closed_nil
  | cons c text ih =>
    have hc := h c List.mem_cons_self
    exact closed_append (closed_char hc.1 hc.2) (ih fun e he => h e (List.mem_cons_of_mem _ he))

theorem closed_flatMap {text : List UInt8} {word : UInt8 → List Char} (h : ∀ b, Closed (word b)) :
    Closed (text.flatMap word) := by
  induction text with
  | nil => exact closed_nil
  | cons b text ih =>
    rw [List.flatMap_cons]
    exact closed_append (h b) ih

/-- What is read up to the first mark behind a closed text. -/
theorem readBody_closed {body : List Char} (h : Closed body) (suffix : List Char) :
    readBody (body ++ quote::suffix)=some ⟨body,suffix⟩ := by
  have hmark : readBody (quote::suffix)=some ⟨[],suffix⟩ := by
    rw [readBody.eq_def]
    exact if_pos rfl
  rw [h,hmark,Option.map_some]
  unfold QuotedText.prepend
  rw [List.append_nil]

/-- A decimal digit is neither a mark nor a backslash. -/
theorem digit_range {c : Char} (h : c.isDigit=true) :
    (c≠quote ∧ c≠ '\\') ∧ 32 ≤ c.toNat ∧ c.toNat ≤ 126 := by
  have hrange : 48 ≤ c.toNat ∧ c.toNat ≤ 57 := Char.isDigit_iff_toNat.mp h
  refine ⟨⟨?_,?_⟩,by omega,by omega⟩
  · intro hmark
    rw [hmark] at h
    exact absurd h (by decide)
  · intro hslash
    rw [hslash] at h
    exact absurd h (by decide)

/-- The text of a byte is closed. -/
theorem escapeByte_closed (m : ℤ) (b : UInt8) : Closed (escapeByte m b) := by
  have hadmits := rendering_admits m [] b
  rw [escapeByte_rendering]
  cases hform : rendering m [] b with
  | plain =>
    rw [hform] at hadmits
    rcases plain_text (hadmits.1 rfl) with ⟨text,hshort,htext⟩ | ⟨hshort,htext,hchar,-,hhigh⟩
    · rcases shortEscape_some hshort with ⟨c,rfl,-⟩
      rw [htext]
      exact closed_escape c
    · rw [htext]
      refine closed_char (fun hmark => ?_) ?_
      · rw [hmark] at hchar
        have hbyte : b=34 := UInt8.toNat_inj.mp hchar.symm
        rw [hbyte] at hshort
        exact absurd hshort (by decide)
      · exact ofNat_ne_backslash hshort (UInt8.le_iff_toNat_le.mpr hhigh)
  | hex =>
    have hbyte := b.toNat_lt
    have hhigh := digitChar_range (b.toNat/16) (by omega)
    have hlow := digitChar_range (b.toNat%16) (by omega)
    exact closed_append (closed_escape 'x')
      (closed_append (closed_char hhigh.2.2.1 hhigh.2.2.2) (closed_char hlow.2.2.1 hlow.2.2.2))
  | octal =>
    change Closed ('\\'::Nat.toDigits 8 b.toNat)
    have hall : ∀ c∈Nat.toDigits 8 b.toNat, c.isDigit=true := fun c hc =>
      Nat.isDigit_of_mem_toDigits (by decide) (by decide) hc
    cases hdigits : Nat.toDigits 8 b.toNat with
    | nil => exact absurd hdigits Nat.toDigits_ne_nil
    | cons digit rest =>
      rw [hdigits] at hall
      refine closed_append (closed_escape digit) (closed_of_forall fun c hc => ?_)
      exact (digit_range (hall c (List.mem_cons_of_mem _ hc))).1

/-- The text of a byte is plain. -/
theorem escapeByte_range (m : ℤ) (b : UInt8) :
    ∀ c∈escapeByte m b, 32 ≤ c.toNat ∧ c.toNat ≤ 126 := by
  have hadmits := rendering_admits m [] b
  rw [escapeByte_rendering]
  intro c hc
  cases hform : rendering m [] b with
  | plain =>
    rw [hform] at hadmits hc
    rcases plain_text (hadmits.1 rfl) with ⟨text,hshort,htext⟩ | ⟨-,htext,hchar,hlow,hhigh⟩
    · rcases shortEscape_some hshort with ⟨e,rfl,-,-,-,hrange⟩
      rw [htext] at hc
      rcases List.mem_cons.mp hc with hslash | he
      · rw [hslash]
        decide
      · rw [List.mem_singleton.mp he]
        exact hrange
    · rw [htext] at hc
      rw [List.mem_singleton.mp hc,hchar]
      exact ⟨hlow,hhigh⟩
  | hex =>
    have hbyte := b.toNat_lt
    have hhigh := digitChar_range (b.toNat/16) (by omega)
    have hlow := digitChar_range (b.toNat%16) (by omega)
    rw [hform] at hc
    change c∈['\\','x',_,_] at hc
    simp only [List.mem_cons,List.not_mem_nil,or_false] at hc
    rcases hc with hslash | hx | hfirst | hsecond
    · rw [hslash]
      decide
    · rw [hx]
      decide
    · rw [hfirst]
      exact ⟨hhigh.1,hhigh.2.1⟩
    · rw [hsecond]
      exact ⟨hlow.1,hlow.2.1⟩
  | octal =>
    rw [hform] at hc
    rcases List.mem_cons.mp hc with hslash | hdigit
    · rw [hslash]
      decide
    · exact (digit_range (Nat.isDigit_of_mem_toDigits (by decide) (by decide) hdigit)).2

end Quoting

section Buffers

variable (data : List UInt8) (limit actualLen escapeMode : ℤ)

/-- Quoted part of the text of a buffer. -/
def bodyOf : List Char :=
  let printed := printedBytes data limit
  printed.flatMap (escapeByte (effectiveMode escapeMode printed))

/-- What follows the quoted part: nothing behind an empty buffer. -/
def suffixOf : List Char :=
  if data≠[] ∧ (((printedBytes data limit).length : ℤ) < actualLen ∨
    (printedBytes data limit).length < data.length) then ['.','.','.'] else []

theorem printedBytes_nil : printedBytes [] limit=[] := List.take_nil

/-- At most all bytes are printed. -/
theorem length_printedBytes : (printedBytes data limit).length=printedLength data.length limit := by
  unfold printedBytes printedLength
  rw [List.length_take]
  split_ifs <;> omega

/-- The text of a buffer. -/
theorem bufferEscape_text : bufferEscape data limit actualLen escapeMode=String.ofList
    (quote::bodyOf data limit escapeMode ++ quote::suffixOf data limit actualLen) := by
  have hlength := length_printedBytes data limit
  unfold bufferEscape suffixOf bodyOf
  by_cases hempty : data=[]
  · rw [if_pos hempty,if_neg fun hand => hand.1 hempty,hempty,printedBytes_nil,List.flatMap_nil]
    decide
  · rw [if_neg hempty,hlength]
    dsimp only
    apply String.toList_inj.mp
    refine Eq.trans ?_ String.toList_ofList.symm
    rw [String.toList_append,String.toList_append,String.toList_append,String.toList_ofList,
      String.toList_ofList]
    by_cases hmore : (printedLength data.length limit : ℤ) < actualLen ∨
        printedLength data.length limit < data.length
    · rw [if_pos hmore,if_pos ⟨hempty,hmore⟩,List.append_assoc]
      rfl
    · rw [if_neg hmore,if_neg fun hand => hmore hand.2,List.append_assoc]
      rfl

/-- What is read from the text of a buffer. -/
theorem readQuoted_bufferEscape : readQuoted (bufferEscape data limit actualLen escapeMode)=
    some ⟨bodyOf data limit escapeMode,suffixOf data limit actualLen⟩ := by
  have hclosed : Closed (bodyOf data limit escapeMode) :=
    closed_flatMap fun b => escapeByte_closed _ b
  rw [bufferEscape_text]
  unfold readQuoted
  rw [String.toList_ofList,List.cons_append]
  dsimp only
  rw [if_pos rfl]
  exact readBody_closed hclosed _

theorem quotedPart_eq : quotedPart data limit actualLen escapeMode=
    some (bodyOf data limit escapeMode) := by
  unfold quotedPart
  rw [readQuoted_bufferEscape]
  rfl

/-- Whether a number of bytes can be printed. -/
def Fits (n : ℕ) : Prop := limit ≤ 0 ∨ (n : ℤ) ≤ limit

theorem printed_fits : Fits limit (printedBytes data limit).length := by
  rw [length_printedBytes]
  unfold Fits printedLength
  split_ifs <;> omega

theorem printedBytes_of_fits {data : List UInt8} {limit : ℤ} (h : Fits limit data.length) :
    printedBytes data limit=data := by
  unfold printedBytes printedLength
  unfold Fits at h
  rw [List.take_eq_self_iff]
  split_ifs <;> omega

/-- The bytes of a buffer can be read back among all buffers of a mode with octal escapes. -/
theorem octal_unambiguous_iff {m : ℤ} (hm : ¬NoOctal m) :
    (∀ other, bodyOf other limit m=bodyOf data limit m →
      printedBytes other limit=printedBytes data limit) ↔ OctalCertain data limit := by
  have hmode : ∀ text, effectiveMode m text=m := fun text =>
    if_neg fun hand => hm (Or.inl hand.1)
  have hbody : ∀ other, bodyOf other limit m=(octalCode m hm).write (printedBytes other limit) := by
    intro other
    unfold bodyOf
    dsimp only
    rw [hmode]
    rfl
  have hdown : ∀ {i j : ℕ}, i ≤ j → Fits limit j → Fits limit i := by
    intro i j hle hfits
    unfold Fits at hfits ⊢
    omega
  have hread := (octalCode m hm).readable_iff hdown (printed_fits data limit)
  have hlength := length_printedBytes data limit
  have hroom : ¬Fits limit ((printedBytes data limit).length+1) ↔
      0 < limit ∧ limit ≤ data.length := by
    rw [hlength]
    unfold Fits printedLength
    split_ifs <;> omega
  constructor
  · intro h
    have hcertain := hread.mp fun q hq hsame => by
      have hprinted := h q (by rw [hbody,hbody,printedBytes_of_fits hq,hsame])
      rw [printedBytes_of_fits hq] at hprinted
      exact hprinted
    exact ⟨hcertain.1,fun b hb hname hlong =>
      hroom.mp (hcertain.2 ⟨b,hb,(splits_iff b).mpr ⟨hname,hlong⟩⟩)⟩
  · intro h other hsame
    rw [hbody,hbody] at hsame
    refine hread.mpr ⟨h.apart,?_⟩ _ (printed_fits other limit) hsame
    rintro ⟨z,hz,hsplits⟩
    have hlong := (splits_iff z).mp hsplits
    exact hroom.mpr (h.full z hz hlong.1 hlong.2)

/-- The text of a buffer keeps its promises exactly if its octal escapes are certain, where its
mode has any, and no bytes are missing of an empty buffer. -/
theorem bufferEscape_readable_iff : Readable data limit actualLen escapeMode ↔
    (¬NoOctal escapeMode → OctalCertain data limit) ∧ (data=[] → actualLen ≤ 0) := by
  have hdots : (readQuoted (bufferEscape data limit actualLen escapeMode)).map (·.suffix)=
      some (suffixOf data limit actualLen) := by
    rw [readQuoted_bufferEscape]
    rfl
  constructor
  · intro h
    constructor
    · intro hm
      apply (octal_unambiguous_iff data limit hm).mp
      intro other hsame
      apply h.unambiguous other 0
      rw [quotedPart_eq,quotedPart_eq,hsame]
    · intro hempty
      by_contra hmissing
      have hsuffix := h.dots
      rw [hdots,hempty] at hsuffix
      unfold suffixOf at hsuffix
      rw [if_neg fun hand => hand.1 rfl,printedBytes_nil,if_pos] at hsuffix
      · exact absurd (Option.some.inj hsuffix).symm (List.cons_ne_nil _ _)
      · exact Or.inl (by rw [List.length_nil]; omega)
  · rintro ⟨hcertain,hmissing⟩
    constructor
    · intro other otherLen hsame
      rw [quotedPart_eq,quotedPart_eq] at hsame
      by_cases hm : NoOctal escapeMode
      · exact printed_of_fixed hm (Option.some.inj hsame)
      · exact (octal_unambiguous_iff data limit hm).mpr (hcertain hm) other (Option.some.inj hsame)
    · refine ⟨_,_,bufferEscape_text data limit actualLen escapeMode,quotedPart_eq _ _ _ _,?_⟩
      intro c hc
      rcases List.mem_flatMap.mp hc with ⟨b,-,hb⟩
      exact escapeByte_range _ b c hb
    · rw [hdots]
      unfold suffixOf
      by_cases hempty : data=[]
      · have hnone := hmissing hempty
        rw [if_neg fun hand => hand.1 hempty,if_neg]
        rw [hempty,printedBytes_nil,List.length_nil]
        omega
      · congr 1
        apply if_congr _ rfl rfl
        exact ⟨fun hand => hand.2,fun hmore => ⟨hempty,hmore⟩⟩

/-- Two buffers with one text, and an empty buffer whose bytes are missing. -/
theorem octal_escapes_collide :
    (quotedPart [1,54] 0 2 0=quotedPart [14] 0 1 0 ∧ printedBytes [1,54] 0≠printedBytes [14] 0) ∧
      bufferEscape [] 0 1 0=String.ofList [quote,quote] := by
  decide

end Buffers

end StraceGo.EscapedBuffers

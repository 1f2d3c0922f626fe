import StraceGo.Utf8Text
import Mathlib.Data.Int.Notation
import Mathlib.Data.List.Nodup
import Mathlib.Data.List.Forall2

/-!
# Parsing JSON texts

A parser for JSON texts of UTF-8 bytes: white space, numbers with fractions and
exponents, strings with all escapes and surrogate pairs, arrays and objects. A
string holds no byte below the space and no byte that starts no character. A
text prints a value when the parser reads that value from it in front of any
byte that may follow a value; arrays and objects print from printed parts.
-/

namespace StraceGo.JsonText

open Utf8Text

/-- JSON values; a number is a mantissa with a decimal exponent. -/
inductive Json where
  | null
  | bool (value : Bool)
  | number (mantissa exponent : ℤ)
  | string (value : List Char)
  | array (values : List Json)
  | object (members : List (List Char×Json))

section Parser

/-- White space between tokens. -/
def isSpace (b : UInt8) : Bool := b==32 || b==9 || b==10 || b==13

/-- Text behind white space. -/
def skipSpace (text : Bytes) : Bytes := text.dropWhile isSpace

/-- Decimal digits. -/
def isDigit (b : UInt8) : Bool := decide (48 ≤ b ∧ b ≤ 57)

/-- Number of some decimal digits. -/
def digitsValue (digits : Bytes) : ℕ := digits.foldl (fun value b => value*10+(b.toNat-48)) 0

/-- Value of a hexadecimal digit. -/
def hexValue (b : UInt8) : Option ℕ :=
  if 48 ≤ b ∧ b ≤ 57 then some (b.toNat-48)
  else if 97 ≤ b ∧ b ≤ 102 then some (b.toNat-87)
  else if 65 ≤ b ∧ b ≤ 70 then some (b.toNat-55)
  else none

/-- Read four hexadecimal digits. -/
def parseHex : Bytes → Option (ℕ×Bytes)
  | a::b::c::d::rest =>
    match hexValue a,hexValue b,hexValue c,hexValue d with
    | some w,some x,some y,some z => some (((w*16+x)*16+y)*16+z,rest)
    | _,_,_,_ => none
  | _ => none

/-- Read what follows the backslash of an escape; a lone surrogate is replaced. -/
def parseEscape : Bytes → Option (ℕ×Bytes)
  | 34::rest => some (34,rest)
  | 92::rest => some (92,rest)
  | 47::rest => some (47,rest)
  | 98::rest => some (8,rest)
  | 102::rest => some (12,rest)
  | 110::rest => some (10,rest)
  | 114::rest => some (13,rest)
  | 116::rest => some (9,rest)
  | 117::rest =>
    match parseHex rest with
    | none => none
    | some (unit,rest) =>
      if unit < 0xD800 ∨ 0xDFFF < unit then some (unit,rest)
      else
        match rest with
        | 92::117::low =>
          match parseHex low with
          | some (second,tail) =>
            if unit < 0xDC00 ∧ 0xDC00 ≤ second ∧ second ≤ 0xDFFF then
              some (0x10000+(unit-0xD800)*0x400+(second-0xDC00),tail)
            else some (runeError,rest)
          | none => none
        | _ => some (runeError,rest)
  | _ => none

/-- An escape of four digits outside the surrogates stands for its number. -/
theorem parseEscape_unicode {text rest : Bytes} {unit : ℕ} (h : parseHex text=some (unit,rest))
    (hplain : unit < 0xD800 ∨ 0xDFFF < unit) : parseEscape (117::text)=some (unit,rest) := by
  simp only [parseEscape,h,if_pos hplain]

/-- Read a string up to its closing quote. -/
def parseChars : ℕ → Bytes → Option (List Char×Bytes)
  | 0,_ => none
  | _+1,[] => none
  | fuel+1,b::rest =>
    if b=34 then some ([],rest)
    else if b=92 then
      match parseEscape rest with
      | none => none
      | some (code,rest) =>
        (parseChars fuel rest).map fun result => (Char.ofNat code::result.1,result.2)
    else if b < 32 then none
    else if decodeRune (b::rest)=(runeError,1) then none
    else
      (parseChars fuel ((b::rest).drop (decodeRune (b::rest)).2)).map fun result =>
        (Char.ofNat (decodeRune (b::rest)).1::result.1,result.2)

/-- Read an exponent, if there is one. -/
def parseExponent : Bytes → Option (ℤ×Bytes)
  | b::rest =>
    if b=101 ∨ b=69 then
      let (negative,rest) := match rest with
        | 45::rest => (true,rest)
        | 43::rest => (false,rest)
        | _ => (false,rest)
      let digits := rest.takeWhile isDigit
      if digits=[] then none
      else
        some (if negative then -digitsValue digits else digitsValue digits,rest.dropWhile isDigit)
    else some (0,b::rest)
  | [] => some (0,[])

/-- Read a fraction, if there is one: its digits and the rest. -/
def parseFraction : Bytes → Option (Bytes×Bytes)
  | 46::rest =>
    if rest.takeWhile isDigit=[] then none
    else some (rest.takeWhile isDigit,rest.dropWhile isDigit)
  | rest => some ([],rest)

/-- Read a number behind its sign. -/
def parseMagnitude (negative : Bool) (text : Bytes) : Option (Json×Bytes) :=
  let digits := text.takeWhile isDigit
  if digits=[] ∨ digits.head?=some 48 ∧ 1 < digits.length then none
  else
    match parseFraction (text.dropWhile isDigit) with
    | none => none
    | some (fraction,rest) =>
      match parseExponent rest with
      | none => none
      | some (exponent,rest) =>
        let value : ℤ := digitsValue (digits ++ fraction)
        some (.number (if negative then -value else value) (exponent-fraction.length),rest)

/-- Read a number. -/
def parseNumber (text : Bytes) : Option (Json×Bytes) :=
  if text.head?=some 45 then parseMagnitude true text.tail else parseMagnitude false text

mutual

/-- Read a value. -/
def parseValue : ℕ → Bytes → Option (Json×Bytes)
  | 0,_ => none
  | _+1,[] => none
  | fuel+1,b::rest =>
    if b=123 then
      match skipSpace rest with
      | 125::rest => some (.object [],rest)
      | rest => (parseMembers fuel rest).map fun result => (.object result.1,result.2)
    else if b=91 then
      match skipSpace rest with
      | 93::rest => some (.array [],rest)
      | rest => (parseElements fuel rest).map fun result => (.array result.1,result.2)
    else if b=34 then
      (parseChars (rest.length+1) rest).map fun result => (.string result.1,result.2)
    else if (ascii "true").isPrefixOf (b::rest) then some (.bool true,rest.drop 3)
    else if (ascii "false").isPrefixOf (b::rest) then some (.bool false,rest.drop 4)
    else if (ascii "null").isPrefixOf (b::rest) then some (.null,rest.drop 3)
    else parseNumber (b::rest)

/-- Read the members of an object up to its closing brace. -/
def parseMembers : ℕ → Bytes → Option (List (List Char×Json)×Bytes)
  | fuel+1,34::rest =>
    match parseChars (rest.length+1) rest with
    | none => none
    | some (key,rest) =>
      match skipSpace rest with
      | 58::rest =>
        match parseValue fuel (skipSpace rest) with
        | none => none
        | some (value,rest) =>
          match skipSpace rest with
          | 125::rest => some ([(key,value)],rest)
          | 44::rest =>
            (parseMembers fuel (skipSpace rest)).map fun result =>
              ((key,value)::result.1,result.2)
          | _ => none
      | _ => none
  | _,_ => none

/-- Read the elements of an array up to its closing bracket. -/
def parseElements : ℕ → Bytes → Option (List Json×Bytes)
  | 0,_ => none
  | fuel+1,text =>
    match parseValue fuel text with
    | none => none
    | some (value,rest) =>
      match skipSpace rest with
      | 93::rest => some ([value],rest)
      | 44::rest =>
        (parseElements fuel (skipSpace rest)).map fun result => (value::result.1,result.2)
      | _ => none

end

/-- Value of a JSON text. -/
def parse (text : Bytes) : Option Json :=
  match parseValue (text.length+1) (skipSpace text) with
  | none => none
  | some (value,rest) => if skipSpace rest=[] then some value else none

end Parser

section Strings

/-- A piece of a string's text prints one character. -/
structure PrintsChar (piece : Bytes) (c : Char) : Prop where
  /-- No control bytes. -/
  clean : ∀ b∈piece, 32 ≤ b
  /-- Something is printed. -/
  nonempty : piece≠[]
  /-- The parser reads the character and goes on behind it. -/
  read : ∀ fuel rest, parseChars (fuel+1) (piece ++ rest)=
    (parseChars fuel rest).map fun result => (c::result.1,result.2)

/-- A text prints the characters between the quotes of a string. -/
structure PrintsString (body : Bytes) (chars : List Char) : Prop where
  /-- No control bytes. -/
  clean : ∀ b∈body, 32 ≤ b
  /-- The parser reads the characters up to the closing quote. -/
  read : ∀ fuel rest, body.length < fuel →
    parseChars fuel (body ++ 34::rest)=some (chars,rest)

/-- Whether a byte stands for itself in a string. -/
def isPlain (b : UInt8) : Bool := decide (32 ≤ b ∧ b < 128 ∧ b≠34 ∧ b≠92)

theorem PrintsChar.plain {b : UInt8} (h : isPlain b=true) :
    PrintsChar [b] (Char.ofNat b.toNat) := by
  obtain ⟨hlow,hhigh,hquote,hslash⟩ := of_decide_eq_true h
  have hcontrol : ¬b < 32 := by
    rw [UInt8.not_lt]
    exact hlow
  have hrune : ∀ rest, decodeRune (b::rest)=(b.toNat,1) := decodeRune_ascii hhigh
  have hvalid : (b.toNat,1)≠(runeError,1) := by
    intro heq
    have hnat : b.toNat=runeError := congrArg Prod.fst heq
    have hbyte := b.toNat_lt
    unfold runeError at hnat
    omega
  refine ⟨by simpa using hlow,by simp,fun fuel rest => ?_⟩
  rw [List.singleton_append,parseChars,if_neg hquote,if_neg hslash,if_neg hcontrol,hrune,
    if_neg hvalid]
  rfl

/-- An escape prints the character the parser makes of it. -/
theorem PrintsChar.escape {piece : Bytes} {code : ℕ} (hclean : ∀ b∈piece, 32 ≤ b)
    (h : ∀ rest, parseEscape (piece ++ rest)=some (code,rest)) :
    PrintsChar (92::piece) (Char.ofNat code) := by
  refine ⟨by simpa using hclean,by simp,fun fuel rest => ?_⟩
  rw [List.cons_append,parseChars,if_neg (by decide),if_pos rfl,h]

/-- The bytes of a long character print it. -/
theorem PrintsChar.rune {first : UInt8} {rest : Bytes} (hfirst : ¬first < 128)
    (hvalid : decodeRune (first::rest)≠(runeError,1)) (hclean : ∀ b∈rest, 32 ≤ b)
    (hwidth : (decodeRune (first::rest)).2=(first::rest).length) :
    PrintsChar (first::rest) (Char.ofNat (decodeRune (first::rest)).1) := by
  have hlow : 128 ≤ first := UInt8.not_lt.mp hfirst
  have hcontrol : ¬first < 32 := by
    intro h
    exact hfirst (UInt8.lt_trans h (by decide))
  have hquote : first≠34 := by
    rintro rfl
    exact hfirst (by decide)
  have hslash : first≠92 := by
    rintro rfl
    exact hfirst (by decide)
  refine ⟨?_,by simp,fun fuel other => ?_⟩
  · simp only [List.forall_mem_cons]
    exact ⟨UInt8.le_trans (by decide) hlow,hclean⟩
  · have hsame := decodeRune_take first rest other hvalid
    rw [hwidth,List.take_length] at hsame
    rw [List.cons_append] at hsame ⊢
    rw [parseChars,if_neg hquote,if_neg hslash,if_neg hcontrol,hsame,if_neg hvalid,hwidth,
      ←List.cons_append,List.drop_left]

theorem PrintsString.nil : PrintsString [] [] where
  clean := by simp
  read := by
    intro fuel rest hfuel
    obtain ⟨fuel,rfl⟩ := Nat.exists_eq_succ_of_ne_zero (Nat.ne_of_gt hfuel)
    rw [List.nil_append,parseChars,if_pos rfl]

theorem PrintsString.cons {piece body : Bytes} {c : Char} {chars : List Char}
    (hpiece : PrintsChar piece c) (hbody : PrintsString body chars) :
    PrintsString (piece ++ body) (c::chars) where
  clean := by
    simp only [List.mem_append]
    rintro b (hb | hb)
    · exact hpiece.clean b hb
    · exact hbody.clean b hb
  read := by
    intro fuel rest hfuel
    have hlength := List.length_pos_iff.mpr hpiece.nonempty
    rw [List.length_append] at hfuel
    obtain ⟨fuel,rfl⟩ := Nat.exists_eq_succ_of_ne_zero (Nat.ne_of_gt (Nat.zero_lt_of_lt hfuel))
    rw [List.append_assoc,hpiece.read,hbody.read fuel rest (by omega)]
    rfl

/-- Plain bytes print themselves. -/
theorem PrintsString.plain {body : Bytes} (h : ∀ b∈body, isPlain b=true) :
    PrintsString body (body.map fun b => Char.ofNat b.toNat) := by
  induction body with
  | nil => exact PrintsString.nil
  | cons b rest ih =>
    rw [List.forall_mem_cons] at h
    exact PrintsString.cons (PrintsChar.plain h.1) (ih h.2)

end Strings

section Values

/-- What may follow a value. -/
def Follows (rest : Bytes) : Prop := ∀ b∈rest.head?, b∈([44,93,125,10] : Bytes)

/-- A text prints a value. -/
structure Prints (text : Bytes) (value : Json) : Prop where
  /-- No control bytes. -/
  clean : ∀ b∈text, 32 ≤ b
  /-- The first byte is neither white space nor a closing bracket. -/
  start : ∃ b∈text.head?, isSpace b=false ∧ b≠93
  /-- The parser reads the value in front of what may follow it. -/
  read : ∀ fuel rest, text.length < fuel → Follows rest →
    parseValue fuel (text ++ rest)=some (value,rest)

theorem skipSpace_cons {b : UInt8} (h : isSpace b=false) (rest : Bytes) :
    skipSpace (b::rest)=b::rest := by
  unfold skipSpace
  rw [List.dropWhile_cons_of_neg (by simp [h])]

/-- A printed value stands behind no white space. -/
theorem Prints.skipSpace_append {text : Bytes} {value : Json} (h : Prints text value)
    (rest : Bytes) : skipSpace (text ++ rest)=text ++ rest := by
  obtain ⟨b,hb,hspace,-⟩ := h.start
  cases text with
  | nil => exact absurd hb (by simp)
  | cons first tail =>
    obtain rfl : first=b := by simpa using hb
    exact skipSpace_cons hspace _

theorem Follows.head {b : UInt8} {rest : Bytes} (h : Follows (b::rest)) :
    b∈([44,93,125,10] : Bytes) := h b rfl

theorem follows_cons {b : UInt8} (h : b∈([44,93,125,10] : Bytes)) (rest : Bytes) :
    Follows (b::rest) := by
  intro first hfirst
  obtain rfl : b=first := by simpa using hfirst
  exact h

/-- A value that starts with a quote is a string. -/
theorem parseValue_quote (fuel : ℕ) (rest : Bytes) :
    parseValue (fuel+1) (34::rest)=
      (parseChars (rest.length+1) rest).map fun result => (.string result.1,result.2) := rfl

theorem Prints.string {body : Bytes} {chars : List Char} (h : PrintsString body chars) :
    Prints ([34] ++ body ++ [34]) (.string chars) where
  clean := by
    intro b hb
    simp only [List.mem_append,List.mem_singleton] at hb
    rcases hb with (rfl | hb) | rfl
    · decide
    · exact h.clean b hb
    · decide
  start := ⟨34,by simp,by decide,by decide⟩
  read := by
    intro fuel rest hfuel _
    obtain ⟨fuel,rfl⟩ := Nat.exists_eq_succ_of_ne_zero (Nat.ne_of_gt (Nat.zero_lt_of_lt hfuel))
    have hread := h.read ((body ++ 34::rest).length+1) rest
      (by simp only [List.length_append,List.length_cons]; omega)
    simp only [List.append_assoc,List.cons_append,List.nil_append]
    rw [Nat.succ_eq_add_one,parseValue_quote,hread]
    rfl

theorem Prints.bool (value : Bool) :
    Prints (if value then ascii "true" else ascii "false") (.bool value) := by
  cases value with
  | true =>
    refine ⟨by decide +kernel,⟨116,by decide,by decide,by decide⟩,fun fuel rest hfuel _ => ?_⟩
    obtain ⟨fuel,rfl⟩ := Nat.exists_eq_succ_of_ne_zero (Nat.ne_of_gt (Nat.zero_lt_of_lt hfuel))
    rfl
  | false =>
    refine ⟨by decide +kernel,⟨102,by decide,by decide,by decide⟩,fun fuel rest hfuel _ => ?_⟩
    obtain ⟨fuel,rfl⟩ := Nat.exists_eq_succ_of_ne_zero (Nat.ne_of_gt (Nat.zero_lt_of_lt hfuel))
    rfl

/-- What follows a value is no part of a number. -/
theorem Follows.isDigit_head {rest : Bytes} (h : Follows rest) :
    rest.takeWhile isDigit=[] ∧ rest.dropWhile isDigit=rest := by
  cases rest with
  | nil => exact ⟨rfl,rfl⟩
  | cons b rest =>
    have hdigit : isDigit b=false := by
      have hall : ∀ b∈([44,93,125,10] : Bytes), isDigit b=false := by simp [isDigit]
      exact hall b h.head
    exact ⟨List.takeWhile_cons_of_neg (by simp [hdigit]),
      List.dropWhile_cons_of_neg (by simp [hdigit])⟩

theorem Follows.parseFraction {rest : Bytes} (h : Follows rest) :
    parseFraction rest=some ([],rest) := by
  cases rest with
  | nil => rfl
  | cons b rest =>
    have hall : ∀ b∈([44,93,125,10] : Bytes), ∀ tail, JsonText.parseFraction (b::tail)=
        some ([],b::tail) := by
      simp [JsonText.parseFraction]
    exact hall b h.head rest

theorem Follows.parseExponent {rest : Bytes} (h : Follows rest) :
    parseExponent rest=some (0,rest) := by
  cases rest with
  | nil => rfl
  | cons b rest =>
    have hall : ∀ b∈([44,93,125,10] : Bytes), ¬(b=101 ∨ b=69) := by simp
    exact if_neg (hall b h.head)

/-- Digits of a number as JSON writes them: no zero in front of others. -/
structure Numeral (digits : Bytes) : Prop where
  /-- Nothing but digits. -/
  decimal : ∀ b∈digits, isDigit b=true
  /-- At least one. -/
  nonempty : digits≠[]
  /-- A leading zero stands alone. -/
  leading : ¬(digits.head?=some 48 ∧ 1 < digits.length)

theorem Numeral.takeWhile {digits rest : Bytes} (h : Numeral digits) (hrest : Follows rest) :
    (digits ++ rest).takeWhile isDigit=digits ∧ (digits ++ rest).dropWhile isDigit=rest := by
  obtain ⟨htake,hdrop⟩ := hrest.isDigit_head
  constructor
  · rw [List.takeWhile_append_of_pos h.decimal,htake,List.append_nil]
  · rw [List.dropWhile_append_of_pos h.decimal,hdrop]

/-- The parser reads a numeral behind either sign. -/
theorem Numeral.parseMagnitude {digits rest : Bytes} (h : Numeral digits) (hrest : Follows rest)
    (negative : Bool) :
    parseMagnitude negative (digits ++ rest)=
      some (.number (if negative then -digitsValue digits else digitsValue digits) 0,rest) := by
  obtain ⟨htake,hdrop⟩ := h.takeWhile hrest
  have hguard : ¬(digits=[] ∨ digits.head?=some 48 ∧ 1 < digits.length) := by
    rintro (hnil | hzero)
    · exact h.nonempty hnil
    · exact h.leading hzero
  unfold JsonText.parseMagnitude
  dsimp only
  rw [htake,hdrop,if_neg hguard,hrest.parseFraction]
  dsimp only
  rw [hrest.parseExponent]
  simp

/-- A value that starts with a digit or a sign is a number. -/
theorem parseValue_number {b : UInt8} (h : isDigit b=true ∨ b=45) (fuel : ℕ) (rest : Bytes) :
    parseValue (fuel+1) (b::rest)=parseNumber (b::rest) := by
  have hword : ∀ first∈([123,91,34,116,102,110] : Bytes), b≠first := by
    have hall : ∀ first∈([123,91,34,116,102,110] : Bytes), isDigit first=false ∧ first≠45 := by
      simp [isDigit]
    rintro first hfirst rfl
    obtain ⟨hdigit,hsign⟩ := hall b hfirst
    rcases h with h | h
    · rw [h] at hdigit
      exact Bool.noConfusion hdigit
    · exact hsign h
  have hprefix : ∀ (first : UInt8) (tail : Bytes), first∈([123,91,34,116,102,110] : Bytes) →
      ¬(first::tail).isPrefixOf (b::rest)=true := by
    intro first tail hfirst
    simp [List.isPrefixOf,(hword first hfirst).symm]
  have hcons : parseValue (fuel+1) (b::rest)=
      if b=123 then
        match skipSpace rest with
        | 125::rest => some (.object [],rest)
        | rest => (parseMembers fuel rest).map fun result => (.object result.1,result.2)
      else if b=91 then
        match skipSpace rest with
        | 93::rest => some (.array [],rest)
        | rest => (parseElements fuel rest).map fun result => (.array result.1,result.2)
      else if b=34 then
        (parseChars (rest.length+1) rest).map fun result => (.string result.1,result.2)
      else if (ascii "true").isPrefixOf (b::rest) then some (.bool true,rest.drop 3)
      else if (ascii "false").isPrefixOf (b::rest) then some (.bool false,rest.drop 4)
      else if (ascii "null").isPrefixOf (b::rest) then some (.null,rest.drop 3)
      else parseNumber (b::rest) := rfl
  rw [hcons,if_neg (hword 123 (by decide)),if_neg (hword 91 (by decide)),
    if_neg (hword 34 (by decide))]
  have htrue : ¬(ascii "true").isPrefixOf (b::rest)=true := hprefix 116 _ (by decide)
  have hfalse : ¬(ascii "false").isPrefixOf (b::rest)=true := hprefix 102 _ (by decide)
  have hnull : ¬(ascii "null").isPrefixOf (b::rest)=true := hprefix 110 _ (by decide)
  rw [if_neg htrue,if_neg hfalse,if_neg hnull]

theorem Numeral.clean {digits : Bytes} (h : Numeral digits) : ∀ b∈digits, 32 ≤ b := by
  intro b hb
  obtain ⟨hlow,-⟩ := of_decide_eq_true (h.decimal b hb)
  exact UInt8.le_trans (by decide) hlow

theorem isDigit_start {b : UInt8} (h : isDigit b=true ∨ b=45) : isSpace b=false ∧ b≠93 := by
  have hall : ∀ other∈([32,9,10,13,93] : Bytes), isDigit other=false ∧ other≠45 := by
    simp [isDigit]
  have hne : ∀ other∈([32,9,10,13,93] : Bytes), b≠other := by
    rintro other hother rfl
    obtain ⟨hdigit,hsign⟩ := hall b hother
    rcases h with h | h
    · rw [h] at hdigit
      exact Bool.noConfusion hdigit
    · exact hsign h
  simp only [List.forall_mem_cons] at hne
  simp [isSpace,hne]

theorem Prints.number {digits : Bytes} (h : Numeral digits) :
    Prints digits (.number (digitsValue digits) 0) := by
  cases hdigits : digits with
  | nil => exact absurd hdigits h.nonempty
  | cons b tail =>
    rw [hdigits] at h
    have hb : isDigit b=true := h.decimal b List.mem_cons_self
    have hsign : ¬(b::tail).head?=some 45 := by
      rw [List.head?_cons]
      intro heq
      rw [Option.some.inj heq] at hb
      exact absurd hb (by decide)
    refine ⟨h.clean,⟨b,rfl,isDigit_start (Or.inl hb)⟩,fun fuel rest hfuel hrest => ?_⟩
    obtain ⟨fuel,rfl⟩ := Nat.exists_eq_succ_of_ne_zero (Nat.ne_of_gt (Nat.zero_lt_of_lt hfuel))
    rw [Nat.succ_eq_add_one,List.cons_append,parseValue_number (Or.inl hb),←List.cons_append]
    unfold parseNumber
    rw [if_neg (by simpa using hsign),h.parseMagnitude hrest]
    rfl

theorem Prints.negative {digits : Bytes} (h : Numeral digits) :
    Prints (45::digits) (.number (-digitsValue digits) 0) := by
  refine ⟨?_,⟨45,rfl,isDigit_start (Or.inr rfl)⟩,fun fuel rest hfuel hrest => ?_⟩
  · simp only [List.forall_mem_cons]
    exact ⟨by decide,h.clean⟩
  · obtain ⟨fuel,rfl⟩ := Nat.exists_eq_succ_of_ne_zero (Nat.ne_of_gt (Nat.zero_lt_of_lt hfuel))
    rw [Nat.succ_eq_add_one,List.cons_append,parseValue_number (Or.inr rfl)]
    unfold parseNumber
    rw [List.head?_cons,if_pos rfl,List.tail_cons,h.parseMagnitude hrest]
    rfl

end Values

section Composites

/-- Pieces between commas. -/
def joined (pieces : List Bytes) : Bytes := (pieces.intersperse [44]).flatten

@[simp] theorem joined_nil : joined []=[] := rfl

theorem joined_singleton (piece : Bytes) : joined [piece]=piece := by
  simp [joined]

theorem joined_cons_cons (first second : Bytes) (rest : List Bytes) :
    joined (first::second::rest)=first ++ ([44] ++ joined (second::rest)) := by
  unfold joined
  rw [List.intersperse_cons_cons,List.flatten_cons,List.flatten_cons]

/-- Pieces between commas: the first one and the others behind commas. -/
theorem joined_cons (first : Bytes) (rest : List Bytes) :
    joined (first::rest)=first ++ rest.flatMap fun piece => [44] ++ piece := by
  induction rest generalizing first with
  | nil => simp [joined_singleton]
  | cons second rest ih =>
    rw [joined_cons_cons,ih,List.flatMap_cons]
    simp only [List.append_assoc]

theorem mem_joined {pieces : List Bytes} {b : UInt8} (h : b∈joined pieces) :
    b=44 ∨ ∃ piece∈pieces, b∈piece := by
  cases pieces with
  | nil => exact absurd h List.not_mem_nil
  | cons first rest =>
    rw [joined_cons,List.mem_append,List.mem_flatMap] at h
    rcases h with h | ⟨piece,hpiece,h⟩
    · exact Or.inr ⟨first,List.mem_cons_self,h⟩
    · rcases List.mem_append.mp h with h | h
      · exact Or.inl (by simpa using h)
      · exact Or.inr ⟨piece,List.mem_cons_of_mem _ hpiece,h⟩

theorem skipSpace_comma (rest : Bytes) : skipSpace (44::rest)=44::rest :=
  skipSpace_cons (by decide) rest

theorem skipSpace_bracket (rest : Bytes) : skipSpace (93::rest)=93::rest :=
  skipSpace_cons (by decide) rest

theorem skipSpace_brace (rest : Bytes) : skipSpace (125::rest)=125::rest :=
  skipSpace_cons (by decide) rest

/-- A printed element. -/
structure Element where
  /-- Text. -/
  text : Bytes
  /-- Value. -/
  value : Json
  /-- The text prints the value. -/
  prints : Prints text value

/-- The parser reads printed elements up to the closing bracket. -/
theorem parseElements_joined (first : Element) (others : List Element) (fuel : ℕ) (rest : Bytes)
    (hfuel : (joined ((first::others).map Element.text)).length+1 < fuel) :
    parseElements fuel (joined ((first::others).map Element.text) ++ 93::rest)=
      some ((first::others).map Element.value,rest) := by
  induction others generalizing first fuel with
  | nil =>
    obtain ⟨fuel,rfl⟩ := Nat.exists_eq_succ_of_ne_zero (Nat.ne_of_gt (Nat.zero_lt_of_lt hfuel))
    simp only [List.map_cons,List.map_nil,joined_singleton] at hfuel ⊢
    rw [Nat.succ_eq_add_one,parseElements,
      first.prints.read fuel (93::rest) (by omega) (follows_cons (by decide) rest)]
    dsimp only
    rw [skipSpace_bracket]
    rfl
  | cons second others ih =>
    obtain ⟨fuel,rfl⟩ := Nat.exists_eq_succ_of_ne_zero (Nat.ne_of_gt (Nat.zero_lt_of_lt hfuel))
    have hnext := ih second fuel
    simp only [List.map_cons] at hfuel hnext ⊢
    rw [joined_cons_cons] at hfuel ⊢
    simp only [List.length_append,List.length_singleton] at hfuel
    simp only [List.append_assoc,List.cons_append,List.nil_append]
    rw [Nat.succ_eq_add_one,parseElements,first.prints.read fuel _ (by omega)
      (follows_cons (by decide) _)]
    dsimp only
    rw [skipSpace_comma]
    change Option.map _ (parseElements fuel (skipSpace _))=_
    have hspace : skipSpace (joined (second.text::others.map Element.text) ++ 93::rest)=
        joined (second.text::others.map Element.text) ++ 93::rest := by
      rw [joined_cons,List.append_assoc]
      exact second.prints.skipSpace_append _
    rw [hspace,hnext (by omega)]
    rfl

/-- A value that starts with a bracket is an array. -/
theorem parseValue_bracket {b : UInt8} (h : b≠93) (hspace : isSpace b=false) (fuel : ℕ)
    (rest : Bytes) :
    parseValue (fuel+1) (91::b::rest)=
      (parseElements fuel (b::rest)).map fun result => (.array result.1,result.2) := by
  have hcons : parseValue (fuel+1) (91::b::rest)=
      match skipSpace (b::rest) with
      | 93::rest => some (.array [],rest)
      | rest => (parseElements fuel rest).map fun result => (.array result.1,result.2) := rfl
  rw [hcons,skipSpace_cons hspace]
  split
  next tail heq => exact absurd (List.cons.inj heq).1 h
  next => rfl

theorem Prints.array (elements : List Element) :
    Prints ([91] ++ joined (elements.map Element.text) ++ [93])
      (.array (elements.map Element.value)) where
  clean := by
    intro b hb
    simp only [List.mem_append,List.mem_singleton] at hb
    rcases hb with (rfl | hb) | rfl
    · decide
    · rcases mem_joined hb with rfl | ⟨piece,hpiece,hb⟩
      · decide
      · obtain ⟨element,-,rfl⟩ := List.mem_map.mp hpiece
        exact element.prints.clean b hb
    · decide
  start := ⟨91,by simp,by decide,by decide⟩
  read := by
    intro fuel rest hfuel _
    obtain ⟨fuel,rfl⟩ := Nat.exists_eq_succ_of_ne_zero (Nat.ne_of_gt (Nat.zero_lt_of_lt hfuel))
    simp only [List.append_assoc,List.cons_append,List.nil_append]
    cases elements with
    | nil => rfl
    | cons first others =>
      have hread := parseElements_joined first others fuel rest (by
        simp only [List.length_append,List.length_singleton] at hfuel
        omega)
      obtain ⟨b,hb,hspace,hbracket⟩ := first.prints.start
      obtain ⟨tail,htail⟩ : ∃ tail, joined ((first::others).map Element.text) ++
        93::rest=b::tail := by
        rw [List.map_cons,joined_cons]
        cases htext : first.text with
        | nil =>
          rw [htext] at hb
          exact absurd hb (by simp)
        | cons head tail =>
          rw [htext] at hb
          obtain rfl : head=b := by simpa using hb
          exact ⟨_,rfl⟩
      rw [htail] at hread ⊢
      rw [Nat.succ_eq_add_one,parseValue_bracket hbracket hspace,hread]
      rfl

/-- A printed member of an object; its name needs no escapes. -/
structure Member where
  /-- Name. -/
  name : Bytes
  /-- Text of the value. -/
  text : Bytes
  /-- Value. -/
  value : Json
  /-- The name stands for itself. -/
  plain : ∀ b∈name, isPlain b=true
  /-- The text prints the value. -/
  prints : Prints text value

namespace Member

/-- Text of a member. -/
def piece (member : Member) : Bytes := [34] ++ member.name ++ [34,58] ++ member.text

/-- Characters of a member's name. -/
def key (member : Member) : List Char := member.name.map fun b => Char.ofNat b.toNat

/-- What the parser makes of a member. -/
def read (member : Member) : List Char×Json := (member.key,member.value)

end Member

/-- The parser reads a member and looks at what follows it. -/
theorem parseMembers_member (member : Member) (fuel : ℕ) (rest : Bytes) (hrest : Follows rest)
    (hfuel : member.text.length < fuel) :
    parseMembers (fuel+1) (member.piece ++ rest)=
      match skipSpace rest with
      | 125::rest => some ([member.read],rest)
      | 44::rest =>
        (parseMembers fuel (skipSpace rest)).map fun result => (member.read::result.1,result.2)
      | _ => none := by
  have hname := (PrintsString.plain member.plain).read
    ((member.name ++ 34::58::(member.text ++ rest)).length+1) (58::(member.text ++ rest))
    (by simp only [List.length_append,List.length_cons]; omega)
  have hpiece : member.piece ++ rest=34::(member.name ++ 34::58::(member.text ++ rest)) := by
    unfold Member.piece
    simp only [List.append_assoc,List.cons_append,List.nil_append]
  have hquote : ∀ tail, parseMembers (fuel+1) (34::tail)=
      match parseChars (tail.length+1) tail with
      | none => none
      | some (key,rest) =>
        match skipSpace rest with
        | 58::rest =>
          match parseValue fuel (skipSpace rest) with
          | none => none
          | some (value,rest) =>
            match skipSpace rest with
            | 125::rest => some ([(key,value)],rest)
            | 44::rest =>
              (parseMembers fuel (skipSpace rest)).map fun result =>
                ((key,value)::result.1,result.2)
            | _ => none
        | _ => none := fun _ => rfl
  rw [hpiece,hquote,hname]
  dsimp only
  rw [skipSpace_cons (by decide)]
  change (match parseValue fuel (skipSpace (member.text ++ rest)) with
    | none => none
    | some (value,rest) =>
      match skipSpace rest with
      | 125::rest => some ([(member.key,value)],rest)
      | 44::rest =>
        (parseMembers fuel (skipSpace rest)).map
          fun result : List (List Char×Json)×Bytes => ((member.key,value)::result.1,result.2)
      | _ => none)=_
  rw [member.prints.skipSpace_append,member.prints.read fuel rest hfuel hrest]
  rfl

theorem skipSpace_piece (member : Member) (rest : Bytes) :
    skipSpace (member.piece ++ rest)=member.piece ++ rest := by
  unfold Member.piece
  simp only [List.append_assoc,List.cons_append,List.nil_append]
  exact skipSpace_cons (by decide) _

/-- The parser reads printed members up to the closing brace. -/
theorem parseMembers_joined (first : Member) (others : List Member) (fuel : ℕ) (rest : Bytes)
    (hfuel : (joined ((first::others).map Member.piece)).length+1 < fuel) :
    parseMembers fuel (joined ((first::others).map Member.piece) ++ 125::rest)=
      some ((first::others).map Member.read,rest) := by
  have hlength : ∀ member : Member, member.text.length+3 ≤ member.piece.length := by
    intro member
    simp [Member.piece]
  induction others generalizing first fuel with
  | nil =>
    obtain ⟨fuel,rfl⟩ := Nat.exists_eq_succ_of_ne_zero (Nat.ne_of_gt (Nat.zero_lt_of_lt hfuel))
    simp only [List.map_cons,List.map_nil,joined_singleton] at hfuel ⊢
    have hfirst := hlength first
    rw [Nat.succ_eq_add_one,parseMembers_member first fuel _ (follows_cons (by decide) rest)
      (by omega),skipSpace_brace]
    rfl
  | cons second others ih =>
    obtain ⟨fuel,rfl⟩ := Nat.exists_eq_succ_of_ne_zero (Nat.ne_of_gt (Nat.zero_lt_of_lt hfuel))
    have hnext := ih second fuel
    have hfirst := hlength first
    simp only [List.map_cons] at hfuel hnext ⊢
    rw [joined_cons_cons] at hfuel ⊢
    simp only [List.length_append,List.length_singleton] at hfuel
    simp only [List.append_assoc,List.cons_append,List.nil_append]
    rw [Nat.succ_eq_add_one,parseMembers_member first fuel _ (follows_cons (by decide) _)
      (by omega),skipSpace_comma]
    change Option.map _ (parseMembers fuel (skipSpace _))=_
    have hspace : skipSpace (joined (second.piece::others.map Member.piece) ++ 125::rest)=
        joined (second.piece::others.map Member.piece) ++ 125::rest := by
      rw [joined_cons,List.append_assoc]
      exact skipSpace_piece second _
    rw [hspace,hnext (by omega)]
    rfl

/-- A value that starts with a brace is an object. -/
theorem parseValue_brace (fuel : ℕ) (rest : Bytes) :
    parseValue (fuel+1) (123::34::rest)=
      (parseMembers fuel (34::rest)).map fun result => (.object result.1,result.2) := rfl

theorem Prints.object (first : Member) (others : List Member) :
    Prints ([123] ++ joined ((first::others).map Member.piece) ++ [125])
      (.object ((first::others).map Member.read)) where
  clean := by
    intro b hb
    simp only [List.mem_append,List.mem_singleton] at hb
    rcases hb with (rfl | hb) | rfl
    · decide
    · rcases mem_joined hb with rfl | ⟨piece,hpiece,hb⟩
      · decide
      · obtain ⟨member,-,rfl⟩ := List.mem_map.mp hpiece
        unfold Member.piece at hb
        simp only [List.mem_append,List.mem_cons,List.not_mem_nil,or_false] at hb
        rcases hb with ((rfl | hb) | (rfl | rfl)) | hb
        · decide
        · exact (of_decide_eq_true (member.plain b hb)).1
        · decide
        · decide
        · exact member.prints.clean b hb
    · decide
  start := ⟨123,by simp,by decide,by decide⟩
  read := by
    intro fuel rest hfuel _
    obtain ⟨fuel,rfl⟩ := Nat.exists_eq_succ_of_ne_zero (Nat.ne_of_gt (Nat.zero_lt_of_lt hfuel))
    have hread := parseMembers_joined first others fuel rest (by
      simp only [List.length_append,List.length_singleton] at hfuel
      omega)
    obtain ⟨tail,htail⟩ : ∃ tail, joined ((first::others).map Member.piece) ++
      125::rest=34::tail := by
      rw [List.map_cons,joined_cons]
      unfold Member.piece
      simp only [List.append_assoc,List.cons_append,List.nil_append]
      exact ⟨_,rfl⟩
    simp only [List.append_assoc,List.cons_append,List.nil_append]
    rw [htail] at hread ⊢
    rw [Nat.succ_eq_add_one,parseValue_brace,hread]
    rfl

/-- A printed value is the value of its line. -/
theorem Prints.parse_line {text : Bytes} {value : Json} (h : Prints text value) :
    parse (text ++ [10])=some value := by
  have hspace := h.skipSpace_append [10]
  have hread := h.read ((text ++ [10]).length+1) [10]
    (by simp only [List.length_append,List.length_cons]; omega)
    (follows_cons (by decide) [])
  unfold parse
  rw [hspace,hread]
  rfl

end Composites

section Fields

/-- A field of a record: its key, whether it is left out, and its value. -/
structure Field where
  /-- Key. -/
  key : String
  /-- Whether the field is left out. -/
  omitted : Bool
  /-- Value. -/
  value : Json

/-- Members of an object with the fields that are not left out. -/
def written (fields : List Field) : List (List Char×Json) :=
  (fields.filter fun field => !field.omitted).map fun field => (field.key.toList,field.value)

/-- Whether every character of a key stands for itself. -/
def plainKey (key : String) : Bool :=
  key.toList.all fun c => decide (c.toNat < 128) && isPlain (UInt8.ofNat c.toNat)

theorem written_cons (field : Field) (fields : List Field) :
    written (field::fields)=
      if field.omitted then written fields
      else (field.key.toList,field.value)::written fields := by
  unfold written
  cases hfield : field.omitted <;> simp [hfield]

/-- Keys of the members are keys of the fields. -/
theorem mem_written_key {fields : List Field} {key : List Char}
    (h : key∈(written fields).map Prod.fst) : key∈fields.map fun field => field.key.toList := by
  unfold written at h
  rw [List.map_map] at h
  obtain ⟨field,hfield,rfl⟩ := List.mem_map.mp h
  exact List.mem_map.mpr ⟨field,(List.mem_filter.mp hfield).1,rfl⟩

/-- Distinct keys of the fields are distinct keys of the members. -/
theorem written_nodup {fields : List Field} (h : (fields.map Field.key).Nodup) :
    ((written fields).map Prod.fst).Nodup := by
  have hsub : (written fields).map Prod.fst=
      ((fields.filter fun field => !field.omitted).map Field.key).map String.toList := by
    unfold written
    rw [List.map_map,List.map_map]
    rfl
  rw [hsub]
  refine List.Nodup.map (fun s t hst => String.toList_inj.mp hst) ?_
  exact h.sublist (List.filter_sublist.map _)

/-- A key is absent exactly when its field is left out, and else it has the field's value. -/
theorem lookup_written {fields : List Field} (h : (fields.map Field.key).Nodup) {field : Field}
    (hfield : field∈fields) :
    (written fields).lookup field.key.toList=
      if field.omitted then none else some field.value := by
  induction fields with
  | nil => exact absurd hfield List.not_mem_nil
  | cons first rest ih =>
    rw [List.map_cons,List.nodup_cons] at h
    rw [written_cons]
    rcases List.mem_cons.mp hfield with rfl | hrest
    · cases hcase : field.omitted with
      | false => simp
      | true =>
        rw [if_pos rfl,if_pos rfl,List.lookup_eq_none_iff]
        intro member hmember
        obtain ⟨other,hother,hkey⟩ :=
          List.mem_map.mp (mem_written_key (List.mem_map_of_mem hmember))
        rw [bne_iff_ne,←hkey]
        intro hsame
        exact h.1 (List.mem_map.mpr ⟨other,hother,(String.toList_inj.mp hsame).symm⟩)
    · have hne : (field.key.toList==first.key.toList)=false := by
        rw [beq_eq_false_iff_ne]
        intro hsame
        exact h.1 (List.mem_map.mpr ⟨field,hrest,String.toList_inj.mp hsame⟩)
      cases first.omitted with
      | false =>
        rw [if_neg (by simp),List.lookup_cons,hne]
        exact ih h.2 hrest
      | true => exact ih h.2 hrest

/-- A piece prints a field behind others: nothing if it is left out, else a comma, the
key and the value. -/
def PrintsField (piece : Bytes) (field : Field) : Prop :=
  if field.omitted then piece=[]
  else ∃ text, Prints text field.value ∧ piece=[44] ++ ([34] ++ ascii field.key ++ [34,58]) ++ text

/-- A plain key is read back from its bytes. -/
theorem plainKey_read {key : String} (h : plainKey key=true) :
    (∀ b∈ascii key, isPlain b=true) ∧
      (ascii key).map (fun b => Char.ofNat b.toNat)=key.toList := by
  unfold plainKey at h
  rw [List.all_eq_true] at h
  unfold ascii
  constructor
  · intro b hb
    obtain ⟨c,hc,rfl⟩ := List.mem_map.mp hb
    have hplain := h c hc
    rw [Bool.and_eq_true] at hplain
    exact hplain.2
  · rw [List.map_map]
    calc key.toList.map _
        =key.toList.map id := by
          refine List.map_congr_left fun c hc => ?_
          have hplain := h c hc
          rw [Bool.and_eq_true,decide_eq_true_eq] at hplain
          have hnat : (UInt8.ofNat c.toNat).toNat=c.toNat := by
            rw [UInt8.toNat_ofNat']
            omega
          simp only [Function.comp_apply,hnat,Char.ofNat_toNat,id]
      _=key.toList := List.map_id _

/-- Member of a field that is written. -/
def Field.member (field : Field) (text : Bytes) (hkey : plainKey field.key=true)
    (h : Prints text field.value) : Member where
  name := ascii field.key
  text := text
  value := field.value
  plain := (plainKey_read hkey).1
  prints := h

theorem Field.member_read (field : Field) (text : Bytes) (hkey : plainKey field.key=true)
    (h : Prints text field.value) :
    (field.member text hkey h).read=(field.key.toList,field.value) := by
  unfold Member.read Member.key Field.member
  rw [(plainKey_read hkey).2]

/-- Pieces that print the fields are the members of the written fields behind commas. -/
theorem exists_members {pieces : List Bytes} {fields : List Field}
    (h : List.Forall₂ PrintsField pieces fields)
    (hkeys : ∀ field∈fields, plainKey field.key=true) :
    ∃ members : List Member,
      pieces.flatten=(members.map Member.piece).flatMap (fun piece => [44] ++ piece) ∧
      members.map Member.read=written fields := by
  induction h with
  | nil => exact ⟨[],rfl,rfl⟩
  | @cons piece field pieces fields hpiece _ ih =>
    rw [List.forall_mem_cons] at hkeys
    obtain ⟨members,hpieces,hread⟩ := ih hkeys.2
    unfold PrintsField at hpiece
    rw [written_cons]
    by_cases hcase : field.omitted=true
    · rw [if_pos hcase] at hpiece ⊢
      refine ⟨members,?_,hread⟩
      rw [hpiece,List.flatten_cons,List.nil_append,hpieces]
    · rw [if_neg hcase] at hpiece ⊢
      obtain ⟨text,htext,rfl⟩ := hpiece
      refine ⟨field.member text hkeys.1 htext::members,?_,?_⟩
      · rw [List.flatten_cons,hpieces,List.map_cons,List.flatMap_cons]
        simp only [Member.piece,Field.member,List.append_assoc]
      · rw [List.map_cons,hread,Field.member_read]

/-- An object prints from a first field and the pieces of the others. -/
theorem Prints.fields (first : Field) {text : Bytes} {pieces : List Bytes} {fields : List Field}
    (hfirst : first.omitted=false) (htext : Prints text first.value)
    (h : List.Forall₂ PrintsField pieces fields)
    (hkeys : ∀ field∈first::fields, plainKey field.key=true) :
    Prints ([123] ++ ([34] ++ ascii first.key ++ [34,58] ++ text) ++ pieces.flatten ++ [125])
      (.object (written (first::fields))) := by
  rw [List.forall_mem_cons] at hkeys
  obtain ⟨members,hpieces,hread⟩ := exists_members h hkeys.2
  have hobject := Prints.object (first.member text hkeys.1 htext) members
  rw [List.map_cons,List.map_cons,joined_cons,←hpieces,hread,Field.member_read] at hobject
  rw [written_cons,hfirst,if_neg (by simp)]
  simpa only [Member.piece,Field.member,List.append_assoc] using hobject

end Fields

end StraceGo.JsonText

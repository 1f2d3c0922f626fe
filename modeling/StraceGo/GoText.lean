import Mathlib.Data.List.Infix
import Mathlib.Algebra.Order.Ring.Int

/-!
# Text functions of the Go library

Prefix and suffix tests, trimming, splitting, searching and integer parsing as
the `strings` and `strconv` packages document them. A Go string is a sequence
of bytes; each byte is one character here. Decimal texts parse back to their
number, and a text that starts with a number and a separator determines both.
-/

namespace StraceGo.GoText

/-- Text of a byte sequence, one character for each byte. -/
def ofBytes (data : List UInt8) : String :=
  String.ofList (data.map fun byte => Char.ofNat byte.toNat)

/-- Whether a text starts with a prefix. -/
def hasPrefix (s p : String) : Bool := p.toList.isPrefixOf s.toList

/-- Whether a text ends with a suffix. -/
def hasSuffix (s p : String) : Bool := p.toList.isSuffixOf s.toList

/-- Text without a leading prefix. -/
def trimPrefix (s p : String) : String :=
  if hasPrefix s p then String.ofList (s.toList.drop p.toList.length) else s

/-- Text without a trailing suffix. -/
def trimSuffix (s p : String) : String :=
  if hasSuffix s p then String.ofList (s.toList.take (s.toList.length-p.toList.length)) else s

/-- Parts of a text between separators. -/
def split (s : String) (separator : Char) : List String :=
  (s.toList.splitOn separator).map String.ofList

/-- Position of the first occurrence of a text. -/
def index (p : List Char) : List Char → Option ℕ
  | [] => if p=[] then some 0 else none
  | c::cs => if p.isPrefixOf (c::cs) then some 0 else (index p cs).map (·+1)

/-- Whether a text occurs in another. -/
def contains (s p : String) : Bool := (index p.toList s.toList).isSome

/-- Hexadecimal text of a number. -/
def hex (n : ℕ) : String := String.ofList (Nat.toDigits 16 n)

/-- Hexadecimal text of a number with its mark. -/
def prefixedHex (n : ℕ) : String := "0x" ++ hex n

/-- Two hexadecimal digits of a byte. -/
def twoDigits (b : UInt8) : String :=
  String.ofList [Nat.digitChar (b.toNat/16),Nat.digitChar (b.toNat%16)]

/-- Texts between brackets. -/
def bracketed (items : List String) : String := "[" ++ ", ".intercalate items ++ "]"

/-- Parse decimal digits into a number of bounded width. -/
def parseDecimal (bits : ℕ) (s : String) : Option ℕ :=
  if s.toList=[] ∨ s.toList.all Char.isDigit=false then none
  else if Nat.ofDigitChars 10 s.toList 0 < 2^bits then some (Nat.ofDigitChars 10 s.toList 0)
  else none

/-- Text without leading characters of a set. -/
def trimLeft (s cutset : String) : String :=
  String.ofList (s.toList.dropWhile fun c => cutset.toList.contains c)

/-- Sign of a number's text, with the characters after it. -/
def cutSign : List Char → Bool×List Char
  | '+'::digits => (false,digits)
  | '-'::digits => (true,digits)
  | digits => (false,digits)

/-- Parse an optionally signed decimal into an integer of bounded width. -/
def parseInt (bits : ℕ) (s : String) : Option ℤ :=
  let (negative,digits) := cutSign s.toList
  match parseDecimal bits (String.ofList digits) with
  | none => none
  | some n =>
    if negative then if 2^(bits-1) < n then none else some (-n)
    else if 2^(bits-1) ≤ n then none else some n

/-- Value of a digit in bases up to thirty-six. -/
def digitValue (c : Char) : Option ℕ :=
  if c.isDigit then some (c.toNat - '0'.toNat)
  else if c.toLower.isLower then some (c.toLower.toNat - 'a'.toNat+10)
  else none

/-- Parse digits of a base, skipping underscores. -/
def parseDigits (base : ℕ) (cs : List Char) : Option ℕ :=
  cs.foldlM (fun acc c =>
    if c = '_' then some acc
    else (digitValue c).bind fun d => if d < base then some (acc*base+d) else none) 0

/-- Base that a literal's leading characters select, with the characters after them. -/
def literalBase : List Char → ℕ×List Char
  | '0'::b::c::cs =>
    if b.toLower = 'b' then (2,c::cs)
    else if b.toLower = 'o' then (8,c::cs)
    else if b.toLower = 'x' then (16,c::cs)
    else (8,b::c::cs)
  | '0'::cs => (8,cs)
  | cs => (10,cs)

/-- What the previous character of a literal was. -/
inductive LiteralMark where
  | start
  | digit
  | underscore
  | other
  deriving DecidableEq

/-- Whether underscores in a literal only separate digits. -/
def underscoresSeparate (hexadecimal : Bool) : LiteralMark → List Char → Bool
  | mark,[] => decide (mark≠.underscore)
  | mark,c::cs =>
    if c.isDigit || hexadecimal && 'a' ≤ c.toLower && c.toLower ≤ 'f' then
      underscoresSeparate hexadecimal .digit cs
    else if c = '_' then
      if mark≠.digit then false else underscoresSeparate hexadecimal .underscore cs
    else if mark=.underscore then false
    else underscoresSeparate hexadecimal .other cs

/-- Whether the underscores of a literal are allowed; a base marker counts as a digit. -/
def underscoreOK (cs : List Char) : Bool :=
  let cs := match cs with
    | '-'::rest => rest
    | '+'::rest => rest
    | _ => cs
  match cs with
  | '0'::b::rest =>
    if b.toLower = 'b' ∨ b.toLower = 'o' ∨ b.toLower = 'x' then
      underscoresSeparate (decide (b.toLower = 'x')) .digit rest
    else underscoresSeparate false .start cs
  | _ => underscoresSeparate false .start cs

/-- Parse an integer literal whose base follows from its leading characters. -/
def parseLiteral (bits : ℕ) (s : String) : Option ℕ :=
  if s.toList=[] then none
  else
    let (base,digits) := literalBase s.toList
    match parseDigits base digits with
    | none => none
    | some n =>
      if 2^bits ≤ n ∨ '_'∈s.toList ∧ underscoreOK s.toList=false then none else some n

section Parts

/-- Parts between separators hold no separator. -/
theorem notMem_of_mem_splitOn {c : Char} {cs part : List Char} (h : part∈cs.splitOn c) :
    c∉part := by
  rw [List.splitOn_eq_splitOnP] at h
  induction cs generalizing part with
  | nil =>
    rw [List.splitOnP_nil,List.mem_singleton] at h
    rw [h]
    exact List.not_mem_nil
  | cons x xs ih =>
    rw [List.splitOnP_cons_eq_if_modifyHead] at h
    by_cases hx : (x==c)=true
    · rw [if_pos hx] at h
      rcases List.mem_cons.mp h with hpart | hpart
      · rw [hpart]
        exact List.not_mem_nil
      · exact ih hpart
    · rw [if_neg hx] at h
      cases hparts : xs.splitOnP (·==c) with
      | nil =>
        rw [hparts] at h
        exact absurd h List.not_mem_nil
      | cons head tail =>
        rw [hparts] at h ih
        rcases List.mem_cons.mp h with hpart | hpart
        · rw [hpart]
          intro hmem
          rcases List.mem_cons.mp hmem with hhead | hhead
          · exact hx (by simp [hhead])
          · exact ih List.mem_cons_self hhead
        · exact ih (List.mem_cons_of_mem _ hpart)

/-- Parts that hold no separator are found again between separators. -/
theorem split_intercalate {separator : String} {c : Char} {parts : List String}
    (hseparator : separator.toList=[c]) (hparts : parts≠[])
    (h : ∀ part∈parts, c∉part.toList) :
    split (String.intercalate separator parts) c=parts := by
  unfold split
  rw [String.toList_intercalate,hseparator,List.splitOn_intercalate,List.map_map]
  · simp
  · intro part hpart
    rcases List.mem_map.mp hpart with ⟨name,hname,rfl⟩
    exact h name hname
  · simpa using hparts

/-- A text is found exactly if it is a part. -/
theorem index_isSome_iff (p cs : List Char) : (index p cs).isSome=true ↔ p <:+: cs := by
  induction cs with
  | nil =>
    unfold index
    rw [List.infix_nil]
    split_ifs with hempty
    · exact iff_of_true rfl hempty
    · exact iff_of_false Bool.false_ne_true hempty
  | cons c cs ih =>
    unfold index
    rw [List.infix_cons_iff,← ih,← List.isPrefixOf_iff_prefix]
    split_ifs with hfirst
    · exact iff_of_true rfl (Or.inl hfirst)
    · rw [Option.isSome_map]
      exact ⟨Or.inr,fun h => h.resolve_left hfirst⟩

end Parts

section Numbers

/-- Decimal text of a natural number parses back. -/
theorem parseDecimal_toString {bits n : ℕ} (h : n < 2^bits) :
    parseDecimal bits (toString n)=some n := by
  have hlist : (toString n).toList=Nat.toDigits 10 n := Nat.toList_repr
  have hdigits : (Nat.toDigits 10 n).all Char.isDigit=true :=
    List.all_eq_true.mpr fun c hc => Nat.isDigit_of_mem_toDigits (by decide) (Nat.le_refl 10) hc
  have hvalue : Nat.ofDigitChars 10 (Nat.toDigits 10 n) 0=n := by simp
  unfold parseDecimal
  rw [hlist,hdigits,hvalue,if_neg (by simp [Nat.toDigits_ne_nil]),if_pos h]

/-- Text of an integer: its digits, behind a sign if it is negative. -/
theorem toString_int_eq (a : ℤ) :
    toString a=if 0 ≤ a then toString a.toNat else "-" ++ toString (-a).toNat := by
  rw [Int.toString_eq_repr,Int.repr_eq_if]
  rfl

/-- Decimal text consists of digits. -/
theorem isDigit_of_mem_toString {n : ℕ} {c : Char} (h : c∈(toString n).toList) :
    c.isDigit=true := by
  have hlist : (toString n).toList=Nat.toDigits 10 n := Nat.toList_repr
  rw [hlist] at h
  exact Nat.isDigit_of_mem_toDigits (by decide) (Nat.le_refl 10) h

/-- Text of an integer consists of digits and a sign. -/
theorem notMem_toString_int {c : Char} (hdigit : c.isDigit=false) (hsign : c≠ '-') (a : ℤ) :
    c∉(toString a).toList := by
  have hnat : ∀ n : ℕ, c∉(toString n).toList := by
    intro n hc
    rw [isDigit_of_mem_toString hc] at hdigit
    exact Bool.noConfusion hdigit
  rw [toString_int_eq]
  split_ifs
  · exact hnat _
  · rw [String.toList_append,List.mem_append]
    rintro (hc | hc)
    · exact hsign (by simpa using hc)
    · exact hnat _ hc

/-- Text determines a natural number. -/
theorem toString_nat_injective : Function.Injective (fun n : ℕ => toString n) := by
  intro m n h
  have hdigits : Nat.toDigits 10 m=Nat.toDigits 10 n := by
    have hlist : (toString m).toList=(toString n).toList := congrArg String.toList h
    rwa [Nat.toString_eq_repr,Nat.toString_eq_repr,Nat.toList_repr,Nat.toList_repr] at hlist
  have hvalue := congrArg (fun digits => Nat.ofDigitChars 10 digits 0) hdigits
  simpa using hvalue

/-- A natural number's text has no sign. -/
theorem sign_append_ne (m n : ℕ) : "-" ++ toString m≠toString n := by
  intro h
  have hsign : '-'∈(toString n).toList := by
    rw [←h,String.toList_append]
    simp
  exact absurd (isDigit_of_mem_toString hsign) (by decide)

/-- Text determines an integer. -/
theorem toString_int_injective : Function.Injective (fun a : ℤ => toString a) := by
  intro a b h
  simp only [toString_int_eq] at h
  split_ifs at h with ha hb hb
  · have := toString_nat_injective h
    omega
  · exact absurd h.symm (sign_append_ne _ _)
  · exact absurd h (sign_append_ne _ _)
  · have := toString_nat_injective (String.append_right_inj "-" |>.mp h)
    omega

/-- Only the text of a natural number parses, to that number. -/
theorem parseDecimal_toString_int {bits : ℕ} {a : ℤ} (h : a < 2^bits) :
    parseDecimal bits (toString a)=if 0 ≤ a then some a.toNat else none := by
  rw [toString_int_eq]
  split_ifs with ha
  · apply parseDecimal_toString
    have hcast : ((2^bits : ℕ) : ℤ)=2^bits := by push_cast; rfl
    omega
  · unfold parseDecimal
    rw [if_pos (Or.inr _)]
    rw [String.toList_append,List.all_append]
    simp

/-- A hexadecimal digit is read back. -/
theorem digitValue_digitChar : ∀ n < 16, digitValue (Nat.digitChar n)=some n ∧
    Nat.digitChar n≠ '_' := by
  decide

/-- Hexadecimal text consists of hexadecimal digits. -/
theorem digit_of_mem_hex {n : ℕ} {c : Char} (h : c∈Nat.toDigits 16 n) :
    ∃ d < 16, c=Nat.digitChar d := by
  induction n using Nat.strongRecOn with
  | ind n ih =>
    by_cases hsmall : n < 16
    · rw [Nat.toDigits_of_lt_base hsmall] at h
      exact ⟨n,hsmall,List.mem_singleton.mp h⟩
    · rw [Nat.toDigits_of_base_le (by decide) (by omega)] at h
      rcases List.mem_append.mp h with hfront | hlast
      · exact ih (n/16) (by omega) hfront
      · exact ⟨n%16,Nat.mod_lt n (by decide),List.mem_singleton.mp hlast⟩

theorem notMem_hex {c : Char} (h : ∀ d < 16, Nat.digitChar d≠c) (n : ℕ) :
    c∉Nat.toDigits 16 n := by
  intro hc
  rcases digit_of_mem_hex hc with ⟨d,hd,hchar⟩
  exact h d hd hchar.symm

/-- Hexadecimal digits are read back. -/
theorem parseDigits_hex (n : ℕ) : parseDigits 16 (Nat.toDigits 16 n)=some n := by
  have hdigit : ∀ acc d : ℕ, d < 16 → List.foldlM (fun acc c => if c= '_' then some acc
      else (digitValue c).bind fun d => if d < 16 then some (acc*16+d) else none) acc
      [Nat.digitChar d]=some (acc*16+d) := by
    intro acc d hd
    have hvalue := digitValue_digitChar d hd
    rw [List.foldlM_cons,if_neg hvalue.2,hvalue.1,Option.bind_some,if_pos hd]
    rfl
  induction n using Nat.strongRecOn with
  | ind n ih =>
    by_cases hsmall : n < 16
    · rw [Nat.toDigits_of_lt_base hsmall]
      have hone := hdigit 0 n hsmall
      rw [Nat.zero_mul,Nat.zero_add] at hone
      exact hone
    · have hvalue : n/16*16+n%16=n := by omega
      have hfront := ih (n/16) (by omega)
      have hlast := hdigit (n/16) (n%16) (Nat.mod_lt n (by decide))
      unfold parseDigits at hfront ⊢
      rw [Nat.toDigits_of_base_le (by decide) (by omega),List.foldlM_append,hfront]
      rw [hvalue] at hlast
      exact hlast

/-- A number with the mark of a hexadecimal one is read back. -/
theorem parseLiteral_prefixedHex {bits n : ℕ} (h : n < 2^bits) :
    parseLiteral bits ("0x" ++ hex n)=some n := by
  have hlist : ("0x" ++ hex n).toList= '0' :: 'x' ::Nat.toDigits 16 n := by
    unfold hex
    rw [String.toList_append,String.toList_ofList,String.toList_ofList]
    rfl
  have hplain : '_' ∉ '0' :: 'x' ::Nat.toDigits 16 n := by
    intro hmem
    rcases List.mem_cons.mp hmem with hzero | hmem
    · exact absurd hzero (by decide)
    · rcases List.mem_cons.mp hmem with hx | hdigit
      · exact absurd hx (by decide)
      · exact notMem_hex (fun d hd => (digitValue_digitChar d hd).2) n hdigit
  have hbase : literalBase ('0':: 'x'::Nat.toDigits 16 n)=(16,Nat.toDigits 16 n) := by
    cases hdigits : Nat.toDigits 16 n with
    | nil => exact absurd hdigits Nat.toDigits_ne_nil
    | cons digit rest => rfl
  unfold parseLiteral
  rw [hlist,if_neg (List.cons_ne_nil _ _),hbase]
  dsimp only
  rw [parseDigits_hex]
  dsimp only
  rw [if_neg]
  rintro (hlarge | hmark)
  · omega
  · exact hplain hmark.1

end Numbers

section Order

/-- Whether a text comes before another one in the order of their characters. -/
def textLess : List Char → List Char → Bool
  | _,[] => false
  | [],_::_ => true
  | a::as,b::bs => decide (a.toNat < b.toNat) || a.toNat==b.toNat && textLess as bs

theorem textLess_total (s t : List Char) : textLess s t=false ∨ textLess t s=false := by
  induction s generalizing t with
  | nil =>
    right
    unfold textLess
    rfl
  | cons a s ih =>
    cases t with
    | nil => exact .inl rfl
    | cons b t =>
      simp only [textLess,Bool.or_eq_false_iff,decide_eq_false_iff_not,Bool.and_eq_false_iff,
        beq_eq_false_iff_ne]
      rcases Nat.lt_trichotomy a.toNat b.toNat with hlt | heq | hgt
      · exact .inr ⟨by omega,.inl (by omega)⟩
      · rcases ih t with h | h
        · exact .inl ⟨by omega,.inr h⟩
        · exact .inr ⟨by omega,.inr h⟩
      · exact .inl ⟨by omega,.inl (by omega)⟩

theorem textLess_trans {s t u : List Char} (hst : textLess t s=false) (htu : textLess u t=false) :
    textLess u s=false := by
  induction s generalizing t u with
  | nil =>
    unfold textLess
    rfl
  | cons a s ih =>
    cases t with
    | nil => exact absurd hst (by simp [textLess])
    | cons b t =>
      cases u with
      | nil => exact absurd htu (by simp [textLess])
      | cons c u =>
        simp only [textLess,Bool.or_eq_false_iff,decide_eq_false_iff_not,Bool.and_eq_false_iff,
          beq_eq_false_iff_ne] at hst htu ⊢
        by_cases hequal : a.toNat=b.toNat ∧ b.toNat=c.toNat
        · have hrest := ih (hst.2.resolve_left fun h => h hequal.1.symm)
            (htu.2.resolve_left fun h => h hequal.2.symm)
          exact ⟨by omega,.inr hrest⟩
        · exact ⟨by omega,.inl (by omega)⟩

end Order

end StraceGo.GoText

import StraceGo.GoText
import Mathlib.Data.List.Basic

/-!
# Rendering of captured strings

Strings of the traced process are shown between quotes, with escapes that the
escape mode chooses. A byte is rendered plainly, in hexadecimal or in octal,
and no two of these renderings of a byte can be confused, so two modes give a
string the same text exactly if they render each of its bytes alike.
-/

namespace StraceGo.StringRendering

open GoText

section Escapes

/-- Mode that writes only bytes outside ASCII in hexadecimal. -/
def escapeModeHexNonASCIIChars : ℤ := 3

/-- Whether a byte has no text of its own. -/
def unprintable (b : UInt8) : Bool :=
  !(b==10 || b==13 || b==9 || b==11 || b==12) && !(decide (32 ≤ b) && decide (b ≤ 126))

/-- Escape of a byte that has a short one. -/
def shortEscape (b : UInt8) : Option (List Char) :=
  if b=10 then some ['\\','n']
  else if b=13 then some ['\\','r']
  else if b=9 then some ['\\','t']
  else if b=11 then some ['\\','v']
  else if b=12 then some ['\\','f']
  else if b=92 then some ['\\','\\']
  else if b=34 then some ['\\',Char.ofNat 34]
  else none

/-- Escape of a byte in hexadecimal. -/
def hexEscape (b : UInt8) : List Char :=
  ['\\','x',Nat.digitChar (b.toNat/16),Nat.digitChar (b.toNat%16)]

/-- Escape of a byte in octal. -/
def octalEscape (b : UInt8) : List Char := ['\\'] ++ Nat.toDigits 8 b.toNat

/-- Text of a byte. -/
def escapeByte (escapeMode : ℤ) (b : UInt8) : List Char :=
  if escapeMode=2 then hexEscape b
  else
    match shortEscape b with
    | some text => text
    | none =>
      if 32 ≤ b ∧ b ≤ 126 then [Char.ofNat b.toNat]
      else if escapeMode=1 ∨ escapeMode=escapeModeHexNonASCIIChars then hexEscape b
      else octalEscape b

/-- Mode for the printed bytes: one unprintable byte makes mode one write all in hexadecimal. -/
def effectiveMode (escapeMode : ℤ) (printed : List UInt8) : ℤ :=
  if escapeMode=1 ∧ printed.any unprintable=true then 2 else escapeMode

/-- Number of bytes that are printed. -/
def printedLength (length : ℕ) (limit : ℤ) : ℕ :=
  if limit ≤ 0 ∨ (length : ℤ) < limit then length else limit.toNat

/-- Text of some bytes between quotes, with dots behind it if there are more. -/
def bufferEscape (data : List UInt8) (limit actualLen escapeMode : ℤ) : String :=
  if data=[] then "\"\""
  else
    let printLimit := printedLength data.length limit
    let printed := data.take printLimit
    "\"" ++ String.ofList (printed.flatMap (escapeByte (effectiveMode escapeMode printed))) ++
      "\"" ++ if (printLimit : ℤ) < actualLen ∨ printLimit < data.length then "..." else ""

end Escapes

section Renderings

/-- Ways to render a byte. -/
inductive Rendering where
  | plain
  | hex
  | octal
  deriving DecidableEq

/-- How a mode renders one of the printed bytes. -/
def rendering (escapeMode : ℤ) (printed : List UInt8) (b : UInt8) : Rendering :=
  if effectiveMode escapeMode printed=2 then .hex
  else if unprintable b=false then .plain
  else if escapeMode=1 ∨ escapeMode=escapeModeHexNonASCIIChars then .hex
  else .octal

/-- Text of a byte in a rendering. -/
def Rendering.text : Rendering → UInt8 → List Char
  | .plain,b => (shortEscape b).getD [Char.ofNat b.toNat]
  | .hex,b => hexEscape b
  | .octal,b => octalEscape b

/-- Bytes without a text of their own have no short escape. -/
theorem unprintable_iff (b : UInt8) :
    unprintable b=true ↔ shortEscape b=none ∧ ¬(32 ≤ b ∧ b ≤ 126) := by
  unfold unprintable shortEscape
  simp only [UInt8.le_iff_toNat_le,←UInt8.toNat_inj,UInt8.reduceToNat,Bool.and_eq_true,
    Bool.not_eq_true',Bool.or_eq_false_iff,beq_eq_false_iff_ne,ne_eq,Bool.and_eq_false_iff,
    decide_eq_false_iff_not]
  split_ifs <;> simp <;> omega

/-- A byte is written as its rendering says. -/
theorem escapeByte_eq (escapeMode : ℤ) (printed : List UInt8) (b : UInt8) :
    escapeByte (effectiveMode escapeMode printed) b=(rendering escapeMode printed b).text b := by
  unfold escapeByte rendering
  by_cases hall : effectiveMode escapeMode printed=2
  · rw [if_pos hall,if_pos hall]
    rfl
  · have hmode : effectiveMode escapeMode printed=escapeMode := by
      unfold effectiveMode at hall ⊢
      split_ifs at hall ⊢ with hone
      · exact absurd rfl hall
      · rfl
    rw [if_neg hall,if_neg hall,hmode]
    have hprint := unprintable_iff b
    by_cases hplain : unprintable b=false
    · rw [if_pos hplain]
      rw [hplain] at hprint
      change _=(shortEscape b).getD [Char.ofNat b.toNat]
      cases hshort : shortEscape b with
      | some text => rfl
      | none =>
        have hrange : 32 ≤ b ∧ b ≤ 126 := by
          by_contra hrange
          exact Bool.noConfusion (hprint.mpr ⟨hshort,hrange⟩)
        exact if_pos hrange
    · rw [if_neg hplain]
      rw [Bool.not_eq_false] at hplain
      have hnone := hprint.mp hplain
      rw [hnone.1]
      dsimp only
      rw [if_neg hnone.2]
      split_ifs <;> rfl

/-- Renderings that a byte can have: plain exactly for bytes with a text of their own. -/
def Rendering.Admits (r : Rendering) (b : UInt8) : Prop :=
  (r=.plain → unprintable b=false) ∧ (r=.octal → unprintable b=true)

theorem rendering_admits (escapeMode : ℤ) (printed : List UInt8) (b : UInt8) :
    (rendering escapeMode printed b).Admits b := by
  unfold rendering Rendering.Admits
  by_cases hplain : unprintable b=false
  · rw [if_pos hplain]
    split_ifs <;> simp [hplain]
  · rw [if_neg hplain]
    split_ifs <;> simp [hplain]

/-- A short escape is no hexadecimal one. -/
theorem shortEscape_eq_some {b : UInt8} {text : List Char} (h : shortEscape b=some text) :
    ∃ c, text=['\\',c] ∧ c≠ 'x' := by
  unfold shortEscape at h
  split_ifs at h <;> exact ⟨_,(Option.some.inj h).symm,by decide⟩

/-- Only the backslash itself starts with a backslash and has no short escape. -/
theorem ofNat_ne_backslash {b : UInt8} (h : shortEscape b=none) (hrange : b ≤ 126) :
    Char.ofNat b.toNat≠ '\\' := by
  intro hchar
  have hvalid : b.toNat.isValidChar := by
    rw [UInt8.le_iff_toNat_le] at hrange
    exact Or.inl (Nat.lt_of_le_of_lt hrange (by decide))
  have hvalue : (Char.ofNat b.toNat).toNat=92 := congrArg Char.toNat hchar
  have hbyte : b=92 := by
    rw [Char.ofNat,dif_pos hvalid] at hvalue
    exact UInt8.toNat_inj.mp hvalue
  rw [hbyte] at h
  exact absurd h (by decide)

/-- The plain text of a byte does not start as a hexadecimal escape. -/
theorem plain_ne_hex {b : UInt8} (hb : unprintable b=false) (c : UInt8)
    (first second : List Char) :
    Rendering.plain.text b ++ first≠Rendering.hex.text c ++ second := by
  intro h
  change (shortEscape b).getD [Char.ofNat b.toNat] ++ first=hexEscape c ++ second at h
  unfold hexEscape at h
  cases hshort : shortEscape b with
  | some text =>
    obtain ⟨e,rfl,he⟩ := shortEscape_eq_some hshort
    rw [hshort] at h
    simp only [Option.getD_some,List.cons_append,List.nil_append,List.cons.injEq,true_and] at h
    exact he h.1
  | none =>
    have hrange : 32 ≤ b ∧ b ≤ 126 := by
      by_contra hrange
      have hnone := (unprintable_iff b).mpr ⟨hshort,hrange⟩
      rw [hb] at hnone
      exact Bool.noConfusion hnone
    rw [hshort] at h
    simp only [Option.getD_none,List.cons_append,List.nil_append,List.cons.injEq] at h
    exact ofNat_ne_backslash hshort hrange.2 h.1

/-- The first digit of an octal escape is no letter. -/
theorem octal_ne_hex (b : UInt8) (first second : List Char) :
    Rendering.octal.text b ++ first≠Rendering.hex.text b ++ second := by
  intro h
  change octalEscape b ++ first=hexEscape b ++ second at h
  unfold octalEscape hexEscape at h
  cases hdigits : Nat.toDigits 8 b.toNat with
  | nil => exact absurd hdigits Nat.toDigits_ne_nil
  | cons digit rest =>
    have hdigit : digit.isDigit=true :=
      Nat.isDigit_of_mem_toDigits (by decide) (by decide) (hdigits ▸ List.mem_cons_self)
    rw [hdigits] at h
    simp only [List.cons_append,List.nil_append,List.cons.injEq,true_and] at h
    rw [h.1] at hdigit
    exact absurd hdigit (by decide)

/-- The texts of two renderings of a byte differ, whatever follows them. -/
theorem rendering_eq_of_text_append {b : UInt8} {r s : Rendering} (hr : r.Admits b)
    (hs : s.Admits b) {first second : List Char} (h : r.text b ++ first=s.text b ++ second) :
    r=s := by
  cases r with
  | plain =>
    cases s with
    | plain => rfl
    | hex => exact absurd h (plain_ne_hex (hr.1 rfl) b _ _)
    | octal => exact absurd ((hr.1 rfl).symm.trans (hs.2 rfl)) Bool.false_ne_true
  | hex =>
    cases s with
    | plain => exact absurd h.symm (plain_ne_hex (hs.1 rfl) b _ _)
    | hex => rfl
    | octal => exact absurd h.symm (octal_ne_hex _ _ _)
  | octal =>
    cases s with
    | plain => exact absurd ((hs.1 rfl).symm.trans (hr.2 rfl)) Bool.false_ne_true
    | hex => exact absurd h (octal_ne_hex _ _ _)
    | octal => rfl

/-- Texts of some bytes agree exactly if their renderings do. -/
theorem flatMap_text_eq_iff {f g : UInt8 → Rendering} {data : List UInt8}
    (hf : ∀ b∈data, (f b).Admits b) (hg : ∀ b∈data, (g b).Admits b) :
    data.flatMap (fun b => (f b).text b)=data.flatMap (fun b => (g b).text b) ↔
      ∀ b∈data, f b=g b := by
  induction data with
  | nil => simp
  | cons b rest ih =>
    rw [List.forall_mem_cons] at hf hg ⊢
    rw [List.flatMap_cons,List.flatMap_cons,←ih hf.2 hg.2]
    constructor
    · intro h
      have hhead := rendering_eq_of_text_append hf.1 hg.1 h
      rw [hhead] at h
      exact ⟨hhead,List.append_cancel_left h⟩
    · rintro ⟨hhead,htail⟩
      rw [hhead,htail]

/-- Two modes give some bytes the same text exactly if they render every printed byte alike. -/
theorem bufferEscape_eq_iff (data : List UInt8) (limit actualLen m n : ℤ) :
    bufferEscape data limit actualLen m=bufferEscape data limit actualLen n ↔
      ∀ b∈data.take (printedLength data.length limit),
        rendering m (data.take (printedLength data.length limit)) b=
          rendering n (data.take (printedLength data.length limit)) b := by
  unfold bufferEscape
  by_cases hempty : data=[]
  · rw [if_pos hempty,if_pos hempty,hempty]
    simp
  · rw [if_neg hempty,if_neg hempty]
    dsimp only
    generalize data.take (printedLength data.length limit)=printed
    have htext : ∀ mode, printed.flatMap (escapeByte (effectiveMode mode printed))=
        printed.flatMap fun b => (rendering mode printed b).text b :=
      fun mode => List.flatMap_congr fun b _ => escapeByte_eq mode printed b
    rw [htext,htext,←flatMap_text_eq_iff (fun b _ => rendering_admits m printed b)
      fun b _ => rendering_admits n printed b,String.append_left_inj,String.append_left_inj,
      String.append_right_inj,String.ofList_inj]

end Renderings

section Decoder

/-- How the options ask to show strings. -/
structure Decoder where
  /-- Escape mode. -/
  hexEscapeMode : ℤ := 0
  /-- Number of bytes to show of a string that is no path. -/
  stringLimit : ℤ := 0

/-- String in captured bytes, and the same once more if its end is certain. -/
def parseBPFData (bpfData : List UInt8) (probeRet : Int32) :
    Option (List UInt8)×Option (List UInt8) :=
  if bpfData=[] then (none,none)
  else
    match bpfData.idxOf? 0 with
    | some idx =>
      let bound : ℤ := if 0 < probeRet ∧ probeRet.toInt < bpfData.length then probeRet.toInt
        else bpfData.length
      (some (bpfData.take idx),
        if 0 ≤ probeRet ∧ (idx : ℤ) ≤ bound-1 then some (bpfData.take idx) else none)
    | none => (some (bpfData.take 4096),none)

/-- Bytes to show of a captured string, and whether some are missing. -/
def decodedBytes (bpfData : List UInt8) (probeRet : Int32) (limit : ℤ) :
    Option (List UInt8×Bool) :=
  match parseBPFData bpfData probeRet with
  | (_,some raw) => some (raw,decide (0 < limit ∧ limit < raw.length))
  | (some bpfRaw,none) =>
    if 0 ≤ probeRet then
      if 0 < limit ∧ limit ≤ bpfRaw.length then some (bpfRaw,true)
      else if limit ≤ 0 ∧ bpfRaw.length=4096 then some (bpfRaw.take 4095,true)
      else none
    else none
  | (none,none) => none

/-- Number of bytes to show of a string; strings without a limit of their own are paths. -/
def Decoder.printLimit (d : Decoder) (limit : ℤ) : ℤ :=
  if limit ≤ 0 then 4095
  else if 0 < d.stringLimit ∧ d.stringLimit < limit then d.stringLimit
  else limit

/-- Text of a captured string; its address without usable bytes. -/
def Decoder.decodeString (d : Decoder) (ptr : UInt64) (bpfData : List UInt8) (probeRet : Int32)
    (limit : ℤ) : String :=
  if ptr=0 then "NULL"
  else
    match decodedBytes bpfData probeRet limit with
    | some (raw,truncated) =>
      bufferEscape raw (d.printLimit limit) (if truncated then d.printLimit limit+1 else 0)
        d.hexEscapeMode
    | none => "0x" ++ hex ptr.toNat

/-- Bytes of a path that are shown. -/
def shownPath (bpfData : List UInt8) (probeRet : Int32) : List UInt8 :=
  match decodedBytes bpfData probeRet 0 with
  | some (raw,_) => raw.take (printedLength raw.length 4095)
  | none => []

/-- Two modes render every shown byte of a path alike. -/
def RendersAlike (m n : ℤ) (bpfData : List UInt8) (probeRet : Int32) : Prop :=
  ∀ b∈shownPath bpfData probeRet,
    rendering m (shownPath bpfData probeRet) b=rendering n (shownPath bpfData probeRet) b

/-- Two decoders give a path the same text exactly if their modes render it alike. -/
theorem decodeString_eq_iff (d e : Decoder) {ptr : UInt64} (hptr : ptr≠0)
    (bpfData : List UInt8) (probeRet : Int32) :
    d.decodeString ptr bpfData probeRet 0=e.decodeString ptr bpfData probeRet 0 ↔
      RendersAlike d.hexEscapeMode e.hexEscapeMode bpfData probeRet := by
  unfold Decoder.decodeString RendersAlike shownPath
  rw [if_neg hptr,if_neg hptr]
  cases decodedBytes bpfData probeRet 0 with
  | none => simp
  | some text => exact bufferEscape_eq_iff text.1 4095 _ d.hexEscapeMode e.hexEscapeMode

end Decoder

end StraceGo.StringRendering

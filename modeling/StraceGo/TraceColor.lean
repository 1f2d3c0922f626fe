import StraceGo.GoText
import StraceGo.TerminalText

/-!
# Colored trace text

The name of the syscall, its quoted values and its punctuation are written between
control sequences of a palette that the user may choose. A terminal shows the text
as it was, with every line end in its default style, and the text may be written in
any pieces that end with lines.
-/

namespace StraceGo.TraceColor

open GoText TerminalText Utf8Text

section Palette

/-- Control sequences of the colored parts. -/
structure TraceColorPalette where
  /-- For the name of a syscall. -/
  syscall : Bytes
  /-- For a quoted value. -/
  argval : Bytes
  /-- For punctuation. -/
  punct : Bytes

/-- Bytes of a text of ASCII characters. -/
def asciiBytes (value : String) : Bytes := value.toList.map fun c => UInt8.ofNat c.toNat

/-- Control sequence that sets a style. -/
def traceSGR (value : String) : Bytes := controlSequence (asciiBytes value)

/-- Control sequence that resets the style. -/
def traceColorReset : Bytes := controlSequence defaultStyle

/-- Whether a style is numbers between semicolons, with at least one digit. -/
def validTraceSGR (value : String) : Bool :=
  value.toList.all (fun c => c.isDigit || c == ';') && value.toList.any Char.isDigit

/-- Whether a character is blank. -/
def isSpace (c : Char) : Bool :=
  decide (9 ≤ c.toNat) && decide (c.toNat ≤ 13) || c.toNat==32 || c.toNat==0x85 ||
    c.toNat==0xa0 || c.toNat==0x1680 || decide (0x2000 ≤ c.toNat) && decide (c.toNat ≤ 0x200a) ||
    c.toNat==0x2028 || c.toNat==0x2029 || c.toNat==0x202f || c.toNat==0x205f || c.toNat==0x3000

/-- Text without blanks at its ends. -/
def trimSpace (s : String) : String :=
  String.ofList ((s.toList.dropWhile isSpace).reverse.dropWhile isSpace).reverse

/-- Parts of a text before and after the first equals sign. -/
def cutEquals (s : String) : Option (String×String) :=
  if '='∈s.toList then
    some (String.ofList (s.toList.takeWhile (· != '=')),
      String.ofList ((s.toList.dropWhile (· != '=')).drop 1))
  else none

/-- One setting of a palette; a bad one changes nothing. -/
def applyItem (palette : TraceColorPalette) (item : String) : TraceColorPalette :=
  match cutEquals item with
  | none => palette
  | some (key,value) =>
    let key := String.ofList ((trimSpace key).toList.map Char.toLower)
    let value := trimSpace value
    if validTraceSGR value then
      if key="syscall" then {palette with syscall := traceSGR value}
      else if key="argval" then {palette with argval := traceSGR value}
      else if key="punct" then {palette with punct := traceSGR value}
      else palette
    else palette

/-- The default palette with the settings of the user. -/
def parseTraceColorPalette (spec : String) : TraceColorPalette :=
  (split spec ':').foldl applyItem
    {syscall := traceSGR "33", argval := traceSGR "35", punct := traceColorReset}

end Palette

section Text

variable (palette : TraceColorPalette)

/-- A text between a control sequence and the reset. -/
def writeTraceColorSpan (sequence text : Bytes) : Bytes := sequence ++ text ++ traceColorReset

/-- Whether a byte may stand in the name of a syscall. -/
def isSyscallNameByte (value : UInt8) : Bool :=
  value==95 || value==63 || decide (97 ≤ value) && decide (value ≤ 122) ||
    decide (65 ≤ value) && decide (value ≤ 90) || decide (48 ≤ value) && decide (value ≤ 57)

/-- Whether a byte is punctuation. -/
def isPunctuation (value : UInt8) : Bool := [40,41,91,93,123,125,44].contains value

/-- Number of bytes up to the quote that ends a value, which no backslash escapes. -/
def quotedTraceValueEnd (escaped : Bool) : Bytes → ℕ
  | [] => 0
  | b::rest =>
    if b=34 ∧ escaped=false then 1
    else 1+quotedTraceValueEnd (if b=92 then !escaped else false) rest

/-- Color the arguments of a line. -/
def colorizeTraceArguments : Bytes → Bytes
  | [] => []
  | b::rest =>
    if b=34 then
      let stop := quotedTraceValueEnd false rest
      writeTraceColorSpan palette.argval (b::rest.take stop) ++
        colorizeTraceArguments (rest.drop stop)
    else if isPunctuation b then
      writeTraceColorSpan palette.punct [b] ++ colorizeTraceArguments rest
    else b::colorizeTraceArguments rest
termination_by text => text.length
decreasing_by
  · rw [List.length_drop,List.length_cons]
    omega
  · rw [List.length_cons]
    omega
  · rw [List.length_cons]
    omega

/-- Name of the syscall at the end of what stands before the arguments. -/
def nameBytes (before : Bytes) : Bytes := (before.reverse.takeWhile isSyscallNameByte).reverse

/-- Color a line; one without a name and an opening parenthesis stays as it is. -/
def colorizeTraceLine (line : Bytes) : Bytes :=
  let before := line.takeWhile (· != 40)
  let name := nameBytes before
  if 40∉line ∨ name=[] then line
  else
    before.take (before.length-name.length) ++ writeTraceColorSpan palette.syscall name ++
      colorizeTraceArguments palette (line.drop before.length)

/-- Color a text line by line. -/
def colorizeTraceText (input : Bytes) : Bytes :=
  if 10∈input then
    let line := input.takeWhile (· != 10)
    colorizeTraceLine palette line ++ [10] ++ colorizeTraceText (input.drop (line.length+1))
  else colorizeTraceLine palette input
termination_by input.length
decreasing_by
  rename_i hmem
  have hlength : 0 < input.length := List.length_pos_of_mem hmem
  rw [List.length_drop]
  omega

end Text

section Palettes

/-- A sequence that sets a style and nothing else. -/
def SetsStyle (sequence : Bytes) : Prop :=
  ∃ parameters, 109∉parameters ∧ sequence=controlSequence parameters

/-- A palette whose sequences set styles. -/
structure TraceColorPalette.Valid (palette : TraceColorPalette) : Prop where
  /-- For the name of a syscall. -/
  syscall : SetsStyle palette.syscall
  /-- For a quoted value. -/
  argval : SetsStyle palette.argval
  /-- For punctuation. -/
  punct : SetsStyle palette.punct

theorem setsStyle_traceSGR {value : String} (h : validTraceSGR value=true) :
    SetsStyle (traceSGR value) := by
  refine ⟨asciiBytes value,fun hmem => ?_,rfl⟩
  obtain ⟨c,hc,hbyte⟩ := List.mem_map.mp hmem
  have hvalid := List.all_eq_true.mp (Bool.and_eq_true_iff.mp h).1 c hc
  have hsmall : c.toNat < 60 := by
    rcases Bool.or_eq_true_iff.mp hvalid with hdigit | hsemicolon
    · have hle := (Bool.and_eq_true_iff.mp hdigit).2
      rw [decide_eq_true_iff] at hle
      have hnat : c.toNat ≤ 57 := hle
      omega
    · rw [beq_iff_eq] at hsemicolon
      rw [hsemicolon]
      decide
  have hnat := congrArg UInt8.toNat hbyte
  rw [UInt8.toNat_ofNat'] at hnat
  have hm : (109 : UInt8).toNat=109 := rfl
  omega

/-- A setting keeps a palette valid. -/
theorem valid_applyItem {palette : TraceColorPalette} (h : palette.Valid) (item : String) :
    (applyItem palette item).Valid := by
  unfold applyItem
  cases cutEquals item with
  | none => exact h
  | some entry =>
    dsimp only
    split_ifs with hvalid
    · exact ⟨setsStyle_traceSGR hvalid,h.argval,h.punct⟩
    · exact ⟨h.syscall,setsStyle_traceSGR hvalid,h.punct⟩
    · exact ⟨h.syscall,h.argval,setsStyle_traceSGR hvalid⟩
    · exact h
    · exact h

/-- Whatever the user writes, the sequences of the palette set styles. -/
theorem valid_parseTraceColorPalette (spec : String) : (parseTraceColorPalette spec).Valid := by
  unfold parseTraceColorPalette
  have hdefault : TraceColorPalette.Valid
      {syscall := traceSGR "33", argval := traceSGR "35", punct := traceColorReset} :=
    ⟨setsStyle_traceSGR (by decide),setsStyle_traceSGR (by decide),⟨defaultStyle,by decide,rfl⟩⟩
  generalize split spec ':'=items
  induction items using List.reverseRecOn with
  | nil => exact hdefault
  | append_singleton items item ih =>
    rw [List.foldl_append]
    exact valid_applyItem ih item

end Palettes

section Painting

variable {palette : TraceColorPalette}

theorem paints_writeTraceColorSpan {sequence text : Bytes} (hsequence : SetsStyle sequence)
    (htext : 27∉text) (hline : 10∉text) : Paints (writeTraceColorSpan sequence text) text := by
  obtain ⟨parameters,hparameters,rfl⟩ := hsequence
  exact paints_span hparameters htext hline

/-- Colored arguments show the arguments. -/
theorem paints_arguments (hpalette : palette.Valid) {text : Bytes} (htext : 27∉text)
    (hline : 10∉text) : Paints (colorizeTraceArguments palette text) text := by
  induction text using colorizeTraceArguments.induct with
  | case1 =>
    rw [colorizeTraceArguments]
    exact paints_nil
  | case2 rest stop ih =>
    rw [colorizeTraceArguments,if_pos rfl]
    have hsplit : 34::rest=(34::rest.take stop) ++ rest.drop stop := by
      rw [List.cons_append,List.take_append_drop]
    rw [hsplit] at htext hline
    have hspan := paints_writeTraceColorSpan hpalette.argval
      (fun hmem => htext (List.mem_append_left _ hmem))
      (fun hmem => hline (List.mem_append_left _ hmem))
    have hrest := ih (fun hmem => htext (List.mem_append_right _ hmem))
      (fun hmem => hline (List.mem_append_right _ hmem))
    have hall := hspan.append hrest
    rw [←hsplit] at hall
    exact hall
  | case3 b rest hquote hpunct ih =>
    rw [colorizeTraceArguments,if_neg hquote,if_pos hpunct]
    have hspan := paints_writeTraceColorSpan hpalette.punct
      (fun hmem => htext (List.mem_cons.mpr (.inl (List.mem_singleton.mp hmem))))
      (fun hmem => hline (List.mem_cons.mpr (.inl (List.mem_singleton.mp hmem))))
    exact hspan.append (ih (fun hmem => htext (List.mem_cons_of_mem _ hmem))
      (fun hmem => hline (List.mem_cons_of_mem _ hmem)))
  | case4 b rest hquote hpunct ih =>
    rw [colorizeTraceArguments,if_neg hquote,if_neg hpunct]
    have hplain : Paints [b] [b] :=
      paints_plain fun hmem => htext (List.mem_cons.mpr (.inl (List.mem_singleton.mp hmem)))
    exact hplain.append (ih (fun hmem => htext (List.mem_cons_of_mem _ hmem))
      (fun hmem => hline (List.mem_cons_of_mem _ hmem)))

/-- The name is the end of what stands before the arguments. -/
theorem take_append_nameBytes (before : Bytes) :
    before.take (before.length-(nameBytes before).length) ++ nameBytes before=before := by
  have hprefix : before.reverse.takeWhile isSyscallNameByte <+: before.reverse :=
    List.takeWhile_prefix _
  obtain ⟨start,hstart⟩ := hprefix
  have hbefore : start.reverse ++ nameBytes before=before := by
    unfold nameBytes
    rw [←List.reverse_append,hstart,List.reverse_reverse]
  have hlength := congrArg List.length hbefore
  rw [List.length_append] at hlength
  have htake : before.take (before.length-(nameBytes before).length)=start.reverse := by
    have hlen : before.length-(nameBytes before).length=start.reverse.length := by omega
    rw [hlen]
    exact List.prefix_iff_eq_take.mp ⟨nameBytes before,hbefore⟩ |>.symm
  rw [htake,hbefore]

/-- A colored line shows the line. -/
theorem paints_line (hpalette : palette.Valid) {line : Bytes} (hline : 27∉line) (hend : 10∉line) :
    Paints (colorizeTraceLine palette line) line := by
  unfold colorizeTraceLine
  dsimp only
  split_ifs with hplain
  · exact paints_plain hline
  · have hbefore := take_append_nameBytes (line.takeWhile (· != 40))
    have hwhole : line.takeWhile (· != 40) ++ line.drop (line.takeWhile (· != 40)).length=line :=
      List.prefix_iff_eq_append.mp (List.takeWhile_prefix _)
    generalize line.takeWhile (· != 40)=before at hbefore hwhole ⊢
    generalize before.take (before.length-(nameBytes before).length)=start at hbefore ⊢
    generalize nameBytes before=name at hbefore ⊢
    generalize line.drop before.length=rest at hwhole ⊢
    subst hbefore
    subst hwhole
    simp only [List.mem_append,not_or] at hline hend
    have hstart : Paints start start := paints_plain hline.1.1
    have hname := paints_writeTraceColorSpan hpalette.syscall hline.1.2 hend.1.2
    exact (hstart.append hname).append (paints_arguments hpalette hline.2 hend.2)

/-- A text with a line end is its first line and the rest. -/
theorem exists_first_line {input : Bytes} (h : 10∈input) :
    ∃ line rest, 10∉line ∧ input=line ++ 10::rest := by
  induction input with
  | nil => exact absurd h List.not_mem_nil
  | cons b input ih =>
    by_cases hb : b=10
    · exact ⟨[],input,List.not_mem_nil,by rw [hb]; rfl⟩
    · have htail : 10∈input := (List.mem_cons.mp h).resolve_left fun heq => hb heq.symm
      obtain ⟨line,rest,hline,hinput⟩ := ih htail
      refine ⟨b::line,rest,fun hmem => ?_,by rw [hinput]; rfl⟩
      rcases List.mem_cons.mp hmem with heq | hin
      · exact hb heq.symm
      · exact hline hin

/-- The first line is colored alone. -/
theorem colorizeTraceText_line {line : Bytes} (hline : 10∉line) (rest : Bytes) :
    colorizeTraceText palette (line ++ 10::rest)=
      colorizeTraceLine palette line ++ 10::colorizeTraceText palette rest := by
  have htake : (line ++ 10::rest).takeWhile (· != 10)=line := by
    have hkept : ∀ b∈line, (b != 10)=true := by
      intro b hb
      rw [bne_iff_ne]
      rintro rfl
      exact hline hb
    rw [List.takeWhile_append_of_pos hkept,List.takeWhile_cons_of_neg (by decide),List.append_nil]
  have hdrop : (line ++ 10::rest).drop (line.length+1)=rest := by
    rw [List.drop_append,List.drop_eq_nil_of_le (Nat.le_succ _),Nat.add_sub_cancel_left]
    rfl
  rw [colorizeTraceText,if_pos (List.mem_append_right _ List.mem_cons_self)]
  dsimp only
  rw [htake,hdrop,List.append_assoc]
  rfl

/-- A text without line ends is one line. -/
theorem colorizeTraceText_last {line : Bytes} (hline : 10∉line) :
    colorizeTraceText palette line=colorizeTraceLine palette line := by
  rw [colorizeTraceText,if_neg hline]

/-- Lines may be colored in pieces. -/
theorem colorizeTraceText_pieces (first rest : Bytes) :
    colorizeTraceText palette (first ++ 10::rest)=
      colorizeTraceText palette (first ++ [10]) ++ colorizeTraceText palette rest := by
  induction hlength : first.length using Nat.strong_induction_on generalizing first with
  | h n ih =>
    by_cases hfirst : 10∈first
    · obtain ⟨line,more,hline,rfl⟩ := exists_first_line hfirst
      have hmore : more.length < n := by
        rw [←hlength,List.length_append,List.length_cons]
        omega
      rw [List.append_assoc,List.append_assoc,List.cons_append,List.cons_append]
      rw [colorizeTraceText_line hline,colorizeTraceText_line hline,ih _ hmore more rfl]
      rw [List.append_assoc,List.cons_append]
    · have hempty : colorizeTraceText palette []=[] := by
        rw [colorizeTraceText_last List.not_mem_nil]
        rfl
      rw [colorizeTraceText_line hfirst,colorizeTraceText_line hfirst,hempty,List.append_assoc]
      rfl

theorem paints_text (hpalette : palette.Valid) {input : Bytes} (hinput : 27∉input) :
    Paints (colorizeTraceText palette input) input := by
  induction hlength : input.length using Nat.strong_induction_on generalizing input with
  | h n ih =>
    by_cases hline : 10∈input
    · obtain ⟨line,rest,hend,rfl⟩ := exists_first_line hline
      simp only [List.mem_append,List.mem_cons,not_or] at hinput
      have hrest : rest.length < n := by
        rw [←hlength,List.length_append,List.length_cons]
        omega
      have hbreak : Paints [10] [10] := paints_plain (by decide)
      rw [colorizeTraceText_line hend]
      exact (paints_line hpalette hinput.1 hend).append
        (hbreak.append (ih _ hrest hinput.2.2 rfl))
    · rw [colorizeTraceText_last hline]
      exact paints_line hpalette hinput hline

end Painting

/-- For every palette setting and every trace text without escapes: a terminal in its default
style shows exactly the text for the colored text, every line end in the default style, and is in
the default style afterwards; and coloring a text in pieces that end with lines is coloring it
whole. -/
theorem colored_text_shows_the_text (spec : String) {input : Bytes} (hinput : 27∉input) :
    Paints (colorizeTraceText (parseTraceColorPalette spec) input) input ∧
      ∀ first rest, input=first ++ 10::rest →
        colorizeTraceText (parseTraceColorPalette spec) (first ++ [10]) ++
            colorizeTraceText (parseTraceColorPalette spec) rest=
          colorizeTraceText (parseTraceColorPalette spec) input := by
  refine ⟨paints_text (valid_parseTraceColorPalette spec) hinput,fun first rest hsplit => ?_⟩
  rw [hsplit]
  exact (colorizeTraceText_pieces first rest).symm

/-- A line with a name, punctuation and a quoted value. -/
def coloredLine : Bytes := [111,40,34,92,34,41,34,44,49,41,10]

theorem colored_text_shows_the_text_line :
    27∉coloredLine ∧ Paints (colorizeTraceText (parseTraceColorPalette "syscall=1;31:punct=x")
      coloredLine) coloredLine :=
  ⟨by decide,(colored_text_shows_the_text _ (by decide)).1⟩

end StraceGo.TraceColor

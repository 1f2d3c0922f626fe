import StraceGo.Utf8Text
import Mathlib.Data.List.Basic

/-!
# Text with colors on a terminal

A terminal shows bytes in its current style; a control sequence of an escape, a
bracket, parameters and a final letter sets the style and shows nothing. A text
is painted by an output if a terminal in its default style shows exactly the text,
every line end in the default style, and is in the default style afterwards.
-/

namespace StraceGo.TerminalText

open Utf8Text

/-- What a terminal expects next. -/
inductive Mode where
  | text
  | escape
  | parameters (collected : Bytes)

/-- A terminal. -/
structure Terminal where
  /-- What it expects next. -/
  mode : Mode := .text
  /-- Parameters of the last control sequence. -/
  style : Bytes
  /-- Bytes it has shown, each with its style. -/
  shown : List (UInt8×Bytes) := []

/-- A control sequence with some parameters. -/
def controlSequence (parameters : Bytes) : Bytes := [27,91] ++ parameters ++ [109]

/-- Parameters of the default style. -/
def defaultStyle : Bytes := [48]

namespace Terminal

variable (t : Terminal)

/-- Take a byte. -/
def step (b : UInt8) : Terminal :=
  match t.mode with
  | .text => if b=27 then {t with mode := .escape} else {t with shown := t.shown ++ [(b,t.style)]}
  | .escape => if b=91 then {t with mode := .parameters []}
    else {t with mode := .text, shown := t.shown ++ [(b,t.style)]}
  | .parameters collected => if b=109 then {t with mode := .text, style := collected}
    else {t with mode := .parameters (collected ++ [b])}

/-- Take bytes in their order. -/
def run (output : Bytes) : Terminal := output.foldl step t

theorem run_append (output more : Bytes) : t.run (output ++ more)=(t.run output).run more :=
  List.foldl_append

/-- Bytes without an escape are shown in the current style. -/
theorem run_plain (t : Terminal) (hmode : t.mode=.text) {text : Bytes} (htext : 27∉text) :
    t.run text={t with shown := t.shown ++ text.map fun b => (b,t.style)} := by
  induction text generalizing t with
  | nil =>
    rw [List.map_nil,List.append_nil]
    rfl
  | cons b text ih =>
    have hb : ¬b=27 := fun heq => htext (heq ▸ List.mem_cons_self)
    have hstep : t.step b={t with shown := t.shown ++ [(b,t.style)]} := by
      unfold step
      rw [hmode]
      exact if_neg hb
    change (t.step b).run text=_
    rw [hstep]
    refine (ih {t with shown := t.shown ++ [(b,t.style)]} hmode fun hmem => htext (List.mem_cons_of_mem _ hmem)).trans ?_
    rw [List.append_assoc]
    rfl

theorem run_parameters (t : Terminal) {collected parameters : Bytes}
    (hmode : t.mode=.parameters collected) (hparameters : 109∉parameters) :
    t.run parameters={t with mode := .parameters (collected ++ parameters)} := by
  induction parameters generalizing t collected with
  | nil =>
    rw [List.append_nil,←hmode]
    rfl
  | cons b parameters ih =>
    have hb : ¬b=109 := fun heq => hparameters (heq ▸ List.mem_cons_self)
    have hstep : t.step b={t with mode := .parameters (collected ++ [b])} := by
      unfold step
      rw [hmode]
      exact if_neg hb
    change (t.step b).run parameters=_
    rw [hstep,ih _ rfl fun hmem => hparameters (List.mem_cons_of_mem _ hmem)]
    rw [List.append_assoc]
    rfl

/-- A control sequence sets the style and shows nothing. -/
theorem run_controlSequence (t : Terminal) (hmode : t.mode=.text) {parameters : Bytes}
    (hparameters : 109∉parameters) :
    t.run (controlSequence parameters)={t with style := parameters} := by
  have hopen : t.run [27,91]={t with mode := .parameters []} := by
    unfold run
    rw [List.foldl_cons,List.foldl_cons,List.foldl_nil]
    have hfirst : t.step 27={t with mode := .escape} := by
      unfold step
      rw [hmode]
      rfl
    rw [hfirst]
    rfl
  unfold controlSequence
  rw [run_append,run_append,hopen,run_parameters _ rfl hparameters,List.nil_append]
  unfold run step
  dsimp only [List.foldl_cons,List.foldl_nil]
  rw [if_pos rfl,←hmode]

end Terminal

/-- A terminal in the default style shows exactly the text for the output. -/
def Paints (output text : Bytes) : Prop :=
  ∀ t : Terminal, t.mode=.text → t.style=defaultStyle →
    ∃ painted : List (UInt8×Bytes), painted.map (·.1)=text ∧
      (∀ piece∈painted, piece.1=10 → piece.2=defaultStyle) ∧
      t.run output={t with shown := t.shown ++ painted}

theorem paints_nil : Paints [] [] := fun t _ _ =>
  ⟨[],rfl,fun _ hmem => absurd hmem List.not_mem_nil,by rw [List.append_nil]; rfl⟩

/-- Painted texts are painted one after the other. -/
theorem Paints.append {output text more rest : Bytes} (h : Paints output text)
    (hmore : Paints more rest) : Paints (output ++ more) (text ++ rest) := by
  intro t hmode hstyle
  obtain ⟨painted,htext,hlines,hrun⟩ := h t hmode hstyle
  obtain ⟨others,hrest,hothers,hnext⟩ := hmore {t with shown := t.shown ++ painted} hmode hstyle
  refine ⟨painted ++ others,?_,fun piece hpiece => ?_,?_⟩
  · rw [List.map_append,htext,hrest]
  · rcases List.mem_append.mp hpiece with hmem | hmem
    · exact hlines piece hmem
    · exact hothers piece hmem
  · rw [Terminal.run_append,hrun,hnext,List.append_assoc]

/-- A text without escapes paints itself. -/
theorem paints_plain {text : Bytes} (htext : 27∉text) : Paints text text := by
  intro t hmode hstyle
  refine ⟨text.map fun b => (b,t.style),?_,fun piece hpiece _ => ?_,
    Terminal.run_plain t hmode htext⟩
  · rw [List.map_map]
    exact List.map_id _
  · obtain ⟨b,-,rfl⟩ := List.mem_map.mp hpiece
    exact hstyle

/-- A text without escapes and line ends between two control sequences is painted. -/
theorem paints_span {parameters text : Bytes} (hparameters : 109∉parameters) (htext : 27∉text)
    (hline : 10∉text) :
    Paints (controlSequence parameters ++ text ++ controlSequence defaultStyle) text := by
  intro t hmode hstyle
  refine ⟨text.map fun b => (b,parameters),?_,fun piece hpiece hend => ?_,?_⟩
  · rw [List.map_map]
    exact List.map_id _
  · obtain ⟨b,hb,rfl⟩ := List.mem_map.mp hpiece
    exact absurd (hend ▸ hb) hline
  · have hdefault : (109 : UInt8)∉defaultStyle := by decide
    have hcolored : ({t with style := parameters} : Terminal).run text=
        {t with
          style := parameters
          shown := t.shown ++ text.map fun b => (b,parameters)} :=
      Terminal.run_plain {t with style := parameters} hmode htext
    rw [Terminal.run_append,Terminal.run_append,Terminal.run_controlSequence t hmode hparameters]
    rw [hcolored,hstyle]
    exact Terminal.run_controlSequence
      {t with style := parameters, shown := t.shown ++ text.map fun b => (b,parameters)}
      hmode hdefault

end StraceGo.TerminalText

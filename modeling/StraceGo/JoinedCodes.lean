import Mathlib.Data.List.Basic

/-!
# Codes whose words can be joined

A code writes every letter as a word, and a text as the words of its letters
without separators. Two neighbouring letters may have the words of a third
one; where no neighbours of a text can be joined in this way it is the shortest
text with its words, and every other such text writes one of its letters as two.
-/

namespace StraceGo.JoinedCodes

variable {α β : Type*}

/-- A code in which the words of two letters can together be the word of a third one. -/
structure JoinedCode (α β : Type*) where
  /-- Word of a letter. -/
  word : α → List β
  /-- Letter with the words of two letters. -/
  joined : α → α → Option α
  /-- No word is empty. -/
  word_ne_nil : ∀ x, word x≠[]
  /-- Joining keeps what is written. -/
  word_joined : ∀ {x c z}, joined x c=some z → word z=word x ++ word c
  /-- Texts with the same words start with the same letter, or one of them can be joined. -/
  overlap : ∀ {x y : α} {p q : List α}, word x ++ p.flatMap word=word y ++ q.flatMap word →
    x=y ∨ (∃ c rest z, p=c::rest ∧ joined x c=some z) ∨ ∃ c rest z, q=c::rest ∧ joined y c=some z

namespace JoinedCode

variable (C : JoinedCode α β)

/-- What is written for a text. -/
def write (text : List α) : List β := text.flatMap C.word

/-- No two neighbours of a text can be joined. -/
def Tight (text : List α) : Prop :=
  ∀ front x c rest, text=front ++ x::c::rest → C.joined x c=none

/-- A letter is joined from two others. -/
def Splits (z : α) : Prop := ∃ x c, C.joined x c=some z

variable {C}

theorem write_cons (x : α) (text : List α) : C.write (x::text)=C.word x ++ C.write text :=
  List.flatMap_cons

theorem write_append (front rest : List α) :
    C.write (front ++ rest)=C.write front ++ C.write rest :=
  List.flatMap_append

/-- Joining two neighbours keeps what is written. -/
theorem write_joined {x c z : α} (h : C.joined x c=some z) (front rest : List α) :
    C.write (front ++ x::c::rest)=C.write (front ++ z::rest) := by
  rw [write_append,write_append,write_cons,write_cons,write_cons,C.word_joined h,List.append_assoc]

/-- Only the empty text writes nothing. -/
theorem write_eq_nil {text : List α} (h : C.write text=[]) : text=[] := by
  cases text with
  | nil => rfl
  | cons x text =>
    rw [write_cons] at h
    exact absurd (List.append_eq_nil_iff.mp h).1 (C.word_ne_nil x)

theorem Tight.tail {x : α} {text : List α} (h : C.Tight (x::text)) : C.Tight text := by
  intro front y c rest hsplit
  apply h (x::front) y c rest
  rw [hsplit]
  rfl

/-- A tight text is shorter than every other text with its words, which splits a letter. -/
theorem Tight.shortest {p q : List α} (hp : C.Tight p) (h : C.write p=C.write q) :
    p=q ∨ p.length < q.length ∧ ∃ z∈p, C.Splits z := by
  induction hn : q.length using Nat.strongRecOn generalizing p q with
  | ind n ih =>
    cases p with
    | nil => exact Or.inl (write_eq_nil h.symm).symm
    | cons x p =>
      cases q with
      | nil => exact absurd (write_eq_nil h) (List.cons_ne_nil x p)
      | cons y q =>
        rw [write_cons,write_cons] at h
        rw [List.length_cons] at hn
        rcases C.overlap h with hsame | ⟨c,rest,z,hsplit,hjoin⟩ | ⟨c,rest,z,hsplit,hjoin⟩
        · rw [hsame] at h ⊢
          have htail := ih q.length (by omega) hp.tail (List.append_cancel_left h) rfl
          rcases htail with heq | ⟨hless,z,hz,hsplits⟩
          · exact Or.inl (congrArg (y::·) heq)
          · refine Or.inr ⟨?_,z,List.mem_cons_of_mem y hz,hsplits⟩
            rw [List.length_cons]
            omega
        · rw [hsplit] at hp
          exact absurd (hjoin.symm.trans (hp [] x c rest rfl)) (Option.some_ne_none z)
        · have hjoined : C.write (x::p)=C.write (z::rest) := by
            rw [← List.nil_append (z::rest),← write_joined hjoin [] rest,← hsplit]
            exact h
          rw [hsplit,List.length_cons] at hn
          have hrest : (z::rest).length=rest.length+1 := List.length_cons
          have hshorter := ih (z::rest).length (by omega) hp hjoined rfl
          rcases hshorter with heq | ⟨hless,hsplits⟩
          · refine Or.inr ⟨?_,z,?_,y,c,hjoin⟩
            · rw [heq,hrest]
              omega
            · rw [heq]
              exact List.mem_cons_self
          · refine Or.inr ⟨?_,hsplits⟩
            omega

/-- In a code that joins nothing, texts with the same words are equal. -/
theorem write_injective (hnone : ∀ x c, C.joined x c=none) {p q : List α}
    (h : C.write p=C.write q) : p=q := by
  have htight : C.Tight p := fun _ x c _ _ => hnone x c
  rcases htight.shortest h with heq | ⟨-,z,-,x,c,hjoin⟩
  · exact heq
  · rw [hnone x c] at hjoin
    exact absurd hjoin.symm (Option.some_ne_none z)

/-- A text can be read back among the texts of an allowed length exactly if no neighbours can be
joined and there is no room to split a letter. -/
theorem readable_iff {fits : ℕ → Prop} (hfits : ∀ {m n}, m ≤ n → fits n → fits m) {p : List α}
    (hp : fits p.length) :
    (∀ q, fits q.length → C.write q=C.write p → q=p) ↔
      C.Tight p ∧ ((∃ z∈p, C.Splits z) → ¬fits (p.length+1)) := by
  constructor
  · intro hread
    constructor
    · intro front x c rest hsplit
      cases hjoin : C.joined x c with
      | none => rfl
      | some z =>
        have hlength : p.length=(front ++ z::rest).length+1 := by
          rw [hsplit,List.length_append,List.length_append,List.length_cons,List.length_cons,
            List.length_cons]
          omega
        have hsame := hread (front ++ z::rest) (hfits (by omega) hp)
          (by rw [hsplit,write_joined hjoin])
        rw [hsame] at hlength
        omega
    · rintro ⟨z,hz,x,c,hjoin⟩ hroom
      rcases List.append_of_mem hz with ⟨front,rest,hsplit⟩
      have hlength : (front ++ x::c::rest).length=p.length+1 := by
        rw [hsplit,List.length_append,List.length_append,List.length_cons,List.length_cons,
          List.length_cons]
        omega
      have hsame := hread (front ++ x::c::rest) (by rw [hlength]; exact hroom)
        (by rw [hsplit,write_joined hjoin])
      rw [hsame] at hlength
      omega
  · rintro ⟨htight,hroom⟩ q hq hwrite
    rcases htight.shortest hwrite.symm with heq | ⟨hless,hsplits⟩
    · exact heq.symm
    · exact absurd (hfits hless hq) (hroom hsplits)

end JoinedCode

end StraceGo.JoinedCodes

import StraceGo.ByteLayout
import StraceGo.FDStateEvents
import Mathlib.Data.Finset.Sort
import Mathlib.Order.Interval.Finset.Nat

/-!
# Texts of signal masks

The formatter of a captured signal mask, and what its text says: names stand
for signals 1 to 31, numbers for signals 32 to 64, and a leading tilde for the
complement. The numbers are printed by a loop that stops at signal 63, so a
text is right exactly if signal 64 is not among those it would have to list.
-/

namespace StraceGo.SignalSets

open ByteLayout FDStateEvents GoText

/-- Text of a signal mask in a captured buffer. -/
def sigsetData (data : List UInt8) : Checked String :=
  if data.length < 8 then some "[]"
  else do
    let mask ← ByteLayout.uint64At data 0
    return sigset mask

/-- Buffer that holds a mask. -/
def sigsetBuffer (mask : UInt64) : List UInt8 := bytes 8 mask.toNat

/-- Whether more than half of the signals are on, so that the text lists the others. -/
def useInverted (mask : UInt64) : Bool :=
  decide (32 < ((List.range 64).filter (maskBit mask)).length)

/-- Mask whose signals the text lists. -/
def displayMask (mask : UInt64) : UInt64 := if useInverted mask then ~~~mask else mask

/-- Positions of the listed signals that have a name, with their names. -/
def listedNames (shown : UInt64) : List (String×ℕ) :=
  signalNames.zipIdx.filter fun e => maskBit shown e.2

/-- Listed signals that have no name. -/
def listedNumbers (shown : UInt64) : List ℕ :=
  ((List.range 32).map (·+32)).filter fun i => maskBit shown (i-1)

/-- Words between the brackets. -/
def listedWords (shown : UInt64) : List String :=
  (listedNames shown).map (·.1) ++ (listedNumbers shown).map toString

/-- Signals of a mask: signal `s` has bit `s-1`. -/
def signals (mask : UInt64) : Finset ℕ :=
  (Finset.Icc 1 64).filter fun s => maskBit mask (s-1)=true

/-- Signal of a word: a name for 1 to 31, a number for 32 to 64. -/
def wordSignal (word : String) : Option ℕ :=
  match signalNames.idxOf? word with
  | some i => some (i+1)
  | none => (parseDecimal 64 word).filter fun n => decide (32 ≤ n ∧ n ≤ 64)

/-- Signals of the words between the brackets. -/
def readWords (body : String) : Option (List ℕ) :=
  if body="" then some [] else (split body ' ').mapM wordSignal

/-- Signals that a text denotes. -/
def readSigset (text : String) : Option (Finset ℕ) :=
  (readWords (trimSuffix (trimPrefix (trimPrefix text "~") "[") "]")).map fun listed =>
    if hasPrefix text "~" then Finset.Icc 1 64 \ listed.toFinset else listed.toFinset

section Text

theorem maskBit_not {mask : UInt64} {i : ℕ} (hi : i < 64) :
    maskBit (~~~mask) i = !maskBit mask i := by
  have hnat : (~~~mask).toNat=2^64-(mask.toNat+1) := by
    rw [UInt64.toNat_not]
    have hlt := mask.toNat_lt
    simp only [UInt64.size]
    omega
  unfold maskBit
  rw [hnat,Nat.testBit_two_pow_sub_succ mask.toNat_lt,decide_eq_true hi,Bool.true_and]

/-- The text of every mask has one form; the two special masks only take a shorter way to it. -/
theorem sigset_eq (mask : UInt64) :
    sigset mask=(if useInverted mask then "~" else "") ++ "[" ++
      String.intercalate " " (listedWords (displayMask mask)) ++ "]" := by
  by_cases hzero : mask=0
  · rw [hzero]
    decide
  · by_cases hfull : mask = ~~~0
    · rw [hfull]
      decide
    · have hform : sigset mask=if listedWords (displayMask mask)=[] ∧ useInverted mask=false then
          "[]"
          else (if useInverted mask then "~" else "") ++ "[" ++
            String.intercalate " " (listedWords (displayMask mask)) ++ "]" := by
        unfold sigset
        rw [if_neg hzero,if_neg hfull]
        rfl
      rw [hform]
      split_ifs with hempty hinverted
      · rw [hempty.2] at hinverted
        exact absurd hinverted Bool.false_ne_true
      · rw [hempty.1]
        rfl
      · rfl
      · rfl

end Text

section Words

/-- A name is read as its signal. -/
theorem wordSignal_name {e : String×ℕ} (he : e∈signalNames.zipIdx) :
    wordSignal e.1=some (e.2+1) := by
  have hall : ∀ e∈signalNames.zipIdx, signalNames.idxOf? e.1=some e.2 := by decide
  unfold wordSignal
  rw [hall e he]

/-- No name consists of digits. -/
theorem notMem_signalNames_toString (n : ℕ) : toString n∉signalNames := by
  have hall : ∀ name∈signalNames, name.toList.all (·.isDigit)=false := by decide
  intro hmem
  have hdigits : (toString n).toList.all (·.isDigit)=true :=
    List.all_eq_true.mpr fun c hc => isDigit_of_mem_toString hc
  rw [hall _ hmem] at hdigits
  exact Bool.noConfusion hdigits

/-- A number is read as itself. -/
theorem wordSignal_number {n : ℕ} (hlow : 32 ≤ n) (hhigh : n < 64) :
    wordSignal (toString n)=some n := by
  have hname : signalNames.idxOf? (toString n)=none :=
    List.idxOf?_eq_none_iff.mpr (notMem_signalNames_toString n)
  have hparse : parseDecimal 64 (toString n)=some n := parseDecimal_toString (by omega)
  unfold wordSignal
  rw [hname,hparse]
  simp only [Option.filter_some,decide_eq_true_eq]
  rw [if_pos (by omega)]

theorem mapM_wordSignal {α : Type} {l : List α} {text : α → String} {signal : α → ℕ}
    (h : ∀ e∈l, wordSignal (text e)=some (signal e)) :
    (l.map text).mapM wordSignal=some (l.map signal) := by
  induction l with
  | nil => rfl
  | cons e l ih =>
    have hrest := ih fun a ha => h a (List.mem_cons_of_mem _ ha)
    rw [List.map_cons,List.mapM_cons,h e List.mem_cons_self,hrest]
    rfl

theorem mem_listedNumbers {shown : UInt64} {n : ℕ} :
    n∈listedNumbers shown ↔ 32 ≤ n ∧ n < 64 ∧ maskBit shown (n-1)=true := by
  unfold listedNumbers
  rw [List.mem_filter,List.mem_map]
  constructor
  · rintro ⟨⟨i,hi,rfl⟩,hbit⟩
    have hlt := List.mem_range.mp hi
    exact ⟨by omega,by omega,hbit⟩
  · rintro ⟨hlow,hhigh,hbit⟩
    exact ⟨⟨n-32,List.mem_range.mpr (by omega),by omega⟩,hbit⟩

/-- The words are read as the signals they were printed for. -/
theorem mapM_listedWords (shown : UInt64) :
    (listedWords shown).mapM wordSignal=
      some ((listedNames shown).map (fun e => e.2+1) ++ listedNumbers shown) := by
  have hnames : ((listedNames shown).map (·.1)).mapM wordSignal=
      some ((listedNames shown).map fun e => e.2+1) :=
    mapM_wordSignal fun e he => wordSignal_name (List.mem_filter.mp he).1
  have hnumbers : ((listedNumbers shown).map toString).mapM wordSignal=
      some ((listedNumbers shown).map id) :=
    mapM_wordSignal fun n hn => by
      have hbounds := mem_listedNumbers.mp hn
      exact wordSignal_number hbounds.1 hbounds.2.1
  unfold listedWords
  rw [List.mapM_append,hnames,hnumbers,List.map_id]
  rfl

/-- The words stand for the shown signals below 64. -/
theorem toFinset_listed (shown : UInt64) :
    ((listedNames shown).map (fun e : String×ℕ => e.2+1) ++ listedNumbers shown).toFinset=
      (signals shown).erase 64 := by
  ext s
  have hnamed : (∃ e : String×ℕ, e∈listedNames shown ∧ e.2+1=s) ↔
      1 ≤ s ∧ s < 32 ∧ maskBit shown (s-1)=true := by
    have hpositions : signalNames.zipIdx.map (·.2)=List.range 31 := by decide
    constructor
    · rintro ⟨e,he,rfl⟩
      have hmem := List.mem_filter.mp he
      have hlt : e.2∈List.range 31 := by
        rw [←hpositions]
        exact List.mem_map_of_mem hmem.1
      have hlt := List.mem_range.mp hlt
      exact ⟨by omega,by omega,hmem.2⟩
    · rintro ⟨hlow,hhigh,hbit⟩
      have hlt : s-1∈signalNames.zipIdx.map (·.2) := by
        rw [hpositions]
        exact List.mem_range.mpr (by omega)
      rcases List.mem_map.mp hlt with ⟨e,he,hposition⟩
      have hshown : maskBit shown e.2=true := by rw [hposition]; exact hbit
      exact ⟨e,List.mem_filter.mpr ⟨he,hshown⟩,by omega⟩
  rw [List.mem_toFinset,List.mem_append,List.mem_map,hnamed,mem_listedNumbers,Finset.mem_erase]
  unfold signals
  rw [Finset.mem_filter,Finset.mem_Icc]
  constructor
  · rintro (⟨hlow,hhigh,hbit⟩ | ⟨hlow,hhigh,hbit⟩)
    · exact ⟨by omega,⟨hlow,by omega⟩,hbit⟩
    · exact ⟨by omega,⟨by omega,by omega⟩,hbit⟩
  · rintro ⟨hne,⟨hlow,hhigh⟩,hbit⟩
    by_cases hnamed : s < 32
    · exact Or.inl ⟨hlow,hnamed,hbit⟩
    · exact Or.inr ⟨by omega,by omega,hbit⟩

end Words

section Reading

theorem word_spec {shown : UInt64} {word : String} (h : word∈listedWords shown) :
    word≠"" ∧ ' '∉word.toList := by
  rcases List.mem_append.mp h with hname | hnumber
  · have hall : ∀ e∈signalNames.zipIdx, e.1≠"" ∧ ' '∉e.1.toList := by decide
    rcases List.mem_map.mp hname with ⟨e,he,rfl⟩
    exact hall e (List.mem_filter.mp he).1
  · rcases List.mem_map.mp hnumber with ⟨n,hn,rfl⟩
    constructor
    · intro hempty
      have hlist : (toString n).toList=Nat.toDigits 10 n := Nat.toList_repr
      rw [hempty] at hlist
      exact Nat.toDigits_ne_nil hlist.symm
    · intro hspace
      exact absurd (isDigit_of_mem_toString hspace) (by decide)

/-- Words between single spaces are found again. -/
theorem readWords_intercalate {words : List String}
    (h : ∀ word∈words, word≠"" ∧ ' '∉word.toList) :
    readWords (String.intercalate " " words)=words.mapM wordSignal := by
  cases words with
  | nil => rfl
  | cons word rest =>
    have hsplit : split (String.intercalate " " (word::rest)) ' '=word::rest :=
      split_intercalate (by simp) (List.cons_ne_nil _ _) fun part hpart => (h part hpart).2
    have hbody : String.intercalate " " (word::rest)≠"" := by
      intro hempty
      rw [hempty] at hsplit
      have hword : word="" := (List.cons.inj hsplit).1.symm
      exact (h word List.mem_cons_self).1 hword
    unfold readWords
    rw [if_neg hbody,hsplit]

theorem trimSuffix_append (s p : String) : trimSuffix (s ++ p) p=s := by
  have hsuffix : hasSuffix (s ++ p) p=true := by
    unfold hasSuffix
    rw [List.isSuffixOf_iff_suffix,String.toList_append]
    exact List.suffix_append _ _
  unfold trimSuffix
  rw [if_pos hsuffix,String.toList_append,List.length_append,Nat.add_sub_cancel,
    List.take_left,String.ofList_toList]

/-- The marks around the words are recognised and dropped. -/
theorem marks_dropped (inverted : Bool) (body : String) :
    hasPrefix ((if inverted then "~" else "") ++ "[" ++ body ++ "]") "~"=inverted ∧
      trimSuffix (trimPrefix (trimPrefix
        ((if inverted then "~" else "") ++ "[" ++ body ++ "]") "~") "[") "]"=body := by
  have hopen : trimPrefix ("[" ++ (body ++ "]")) "["=body ++ "]" := by
    simp [trimPrefix,hasPrefix]
  cases inverted with
  | true =>
    have htilde : trimPrefix ("~" ++ "[" ++ body ++ "]") "~"="[" ++ (body ++ "]") := by
      simp [trimPrefix,hasPrefix]
    constructor
    · simp [hasPrefix]
    · rw [if_pos rfl,htilde,hopen,trimSuffix_append]
  | false =>
    have hplain : trimPrefix ("" ++ "[" ++ body ++ "]") "~"="[" ++ (body ++ "]") := by
      simp [trimPrefix,hasPrefix,String.append_assoc]
    constructor
    · simp [hasPrefix,List.isPrefixOf]
    · rw [if_neg Bool.false_ne_true,hplain,hopen,trimSuffix_append]

/-- What the text of a mask denotes: the displayed signals below 64, or all others. -/
def denotedSignals (mask : UInt64) : Finset ℕ :=
  if useInverted mask then Finset.Icc 1 64 \ (signals (displayMask mask)).erase 64
  else (signals (displayMask mask)).erase 64

theorem readSigset_sigset (mask : UInt64) :
    readSigset (sigset mask)=some (denotedSignals mask) := by
  have hmarks := marks_dropped (useInverted mask)
    (String.intercalate " " (listedWords (displayMask mask)))
  unfold readSigset
  rw [sigset_eq,hmarks.1,hmarks.2,readWords_intercalate fun word hword => word_spec hword,
    mapM_listedWords,Option.map_some,toFinset_listed]
  rfl

end Reading

section Faithfulness

theorem mem_signals {mask : UInt64} {s : ℕ} :
    s∈signals mask ↔ (1 ≤ s ∧ s ≤ 64) ∧ maskBit mask (s-1)=true := by
  unfold signals
  rw [Finset.mem_filter,Finset.mem_Icc]

/-- The signals of a mask determine it. -/
theorem signals_injective {m1 m2 : UInt64} (h : signals m1=signals m2) : m1=m2 := by
  apply UInt64.toNat_inj.mp
  apply Nat.eq_of_testBit_eq
  intro i
  by_cases hi : i < 64
  · have hmem : i+1∈signals m1 ↔ i+1∈signals m2 := by rw [h]
    rw [mem_signals,mem_signals,Nat.add_sub_cancel] at hmem
    have hbounds : 1 ≤ i+1 ∧ i+1 ≤ 64 := ⟨by omega,by omega⟩
    simp only [hbounds,true_and] at hmem
    exact Bool.eq_iff_iff.mpr hmem
  · have hlarge : ∀ m : UInt64, m.toNat.testBit i=false := fun m =>
      Nat.testBit_lt_two_pow (Nat.lt_of_lt_of_le m.toNat_lt
        (Nat.pow_le_pow_right (by decide) (Nat.le_of_not_lt hi)))
    rw [hlarge,hlarge]

/-- The text denotes signal 64 by its polarity alone, every other signal by its bit. -/
theorem mem_denotedSignals {mask : UInt64} {s : ℕ} :
    s∈denotedSignals mask ↔ (1 ≤ s ∧ s ≤ 64) ∧
      (if s=64 then useInverted mask else maskBit mask (s-1))=true := by
  unfold denotedSignals displayMask
  cases hinverted : useInverted mask with
  | true =>
    rw [if_pos rfl,if_pos rfl,Finset.mem_sdiff,Finset.mem_Icc,Finset.mem_erase,mem_signals]
    by_cases hbounds : 1 ≤ s ∧ s ≤ 64
    · rw [maskBit_not (by omega)]
      split_ifs with hlast
      · simp [hlast]
      · simp [hbounds,hlast]
    · simp only [hbounds,false_and]
  | false =>
    rw [if_neg Bool.false_ne_true,if_neg Bool.false_ne_true,Finset.mem_erase,mem_signals]
    split_ifs with hlast
    · simp [hlast]
    · simp [hlast]

/-- A text is right exactly if it has no need to list signal 64. -/
theorem denotedSignals_iff (mask : UInt64) :
    denotedSignals mask=signals mask ↔ maskBit mask 63=useInverted mask := by
  constructor
  · intro hsame
    have hlast : 64∈denotedSignals mask ↔ 64∈signals mask := by rw [hsame]
    rw [mem_denotedSignals,mem_signals,if_pos rfl] at hlast
    have hbounds : 1 ≤ 64 ∧ 64 ≤ 64 := by decide
    simp only [hbounds,true_and] at hlast
    exact (Bool.eq_iff_iff.mpr hlast).symm
  · intro hlast
    ext s
    rw [mem_denotedSignals,mem_signals]
    split_ifs with hs
    · rw [hs,hlast]
    · exact Iff.rfl

/-- The buffer of a mask is formatted as that mask. -/
theorem sigsetData_buffer (mask : UInt64) : sigsetData (sigsetBuffer mask)=some (sigset mask) := by
  have hlength : (sigsetBuffer mask).length=8 := length_bytes 8 mask.toNat
  have hfield : field (sigsetBuffer mask) 0 8=mask.toNat := by
    unfold field
    rw [List.drop_zero,List.take_of_length_le (Nat.le_of_eq hlength)]
    exact value_bytes_of_lt mask.toNat_lt
  unfold sigsetData
  rw [if_neg (by omega),uint64At_eq (by omega),hfield]
  simp

/-- What is read from the text of a buffer is a mask's signals exactly if the text has no need to
list signal 64. -/
theorem sigset_denotes_iff (mask : UInt64) :
    (sigsetData (sigsetBuffer mask)).bind readSigset=some (signals mask) ↔
      maskBit mask 63=useInverted mask := by
  rw [sigsetData_buffer,Option.bind_some,readSigset_sigset,Option.some_inj,denotedSignals_iff]

/-- Two texts agree exactly if they have one polarity and the masks agree below signal 64. -/
theorem sigset_eq_iff (m1 m2 : UInt64) :
    sigset m1=sigset m2 ↔ useInverted m1=useInverted m2 ∧
      ∀ i < 63, maskBit m1 i=maskBit m2 i := by
  constructor
  · intro htext
    have hread : denotedSignals m1=denotedSignals m2 := by
      have hsame := readSigset_sigset m1
      rw [htext,readSigset_sigset,Option.some_inj] at hsame
      exact hsame.symm
    constructor
    · have hlast : 64∈denotedSignals m1 ↔ 64∈denotedSignals m2 := by rw [hread]
      rw [mem_denotedSignals,mem_denotedSignals,if_pos rfl,if_pos rfl] at hlast
      have hbounds : 1 ≤ 64 ∧ 64 ≤ 64 := by decide
      simp only [hbounds,true_and] at hlast
      exact Bool.eq_iff_iff.mpr hlast
    · intro i hi
      have hbit : i+1∈denotedSignals m1 ↔ i+1∈denotedSignals m2 := by rw [hread]
      have hbounds : 1 ≤ i+1 ∧ i+1 ≤ 64 := ⟨by omega,by omega⟩
      rw [mem_denotedSignals,mem_denotedSignals,if_neg (by omega),if_neg (by omega),
        Nat.add_sub_cancel] at hbit
      simp only [hbounds,true_and] at hbit
      exact Bool.eq_iff_iff.mpr hbit
  · rintro ⟨hpolarity,hbits⟩
    have hshown : ∀ i < 63, maskBit (displayMask m1) i=maskBit (displayMask m2) i := by
      intro i hi
      unfold displayMask
      rw [hpolarity]
      split_ifs
      · rw [maskBit_not (by omega),maskBit_not (by omega),hbits i hi]
      · exact hbits i hi
    have hnames : listedNames (displayMask m1)=listedNames (displayMask m2) := by
      apply List.filter_congr
      intro e he
      have hall : ∀ e∈signalNames.zipIdx, e.2 < 63 := by decide
      exact hshown e.2 (hall e he)
    have hnumbers : listedNumbers (displayMask m1)=listedNumbers (displayMask m2) := by
      apply List.filter_congr
      intro n hn
      rcases List.mem_map.mp hn with ⟨i,hi,rfl⟩
      have hlt := List.mem_range.mp hi
      exact hshown _ (by omega)
    rw [sigset_eq,sigset_eq,hpolarity]
    unfold listedWords
    rw [hnames,hnumbers]

/-- Two masks are printed apart and each as the set it is exactly if neither has to list
signal 64: it is off in a mask of at most 32 signals and on in a larger one. -/
theorem sigset_faithful_iff (m1 m2 : UInt64) :
    ((sigsetData (sigsetBuffer m1)=sigsetData (sigsetBuffer m2) → m1=m2) ∧
      (sigsetData (sigsetBuffer m1)).bind readSigset=some (signals m1) ∧
      (sigsetData (sigsetBuffer m2)).bind readSigset=some (signals m2)) ↔
    maskBit m1 63=useInverted m1 ∧ maskBit m2 63=useInverted m2 := by
  rw [sigset_denotes_iff,sigset_denotes_iff]
  constructor
  · rintro ⟨-,hlast⟩
    exact hlast
  · rintro ⟨h1,h2⟩
    refine ⟨fun htext => ?_,h1,h2⟩
    have hread := (sigset_denotes_iff m1).mpr h1
    rw [htext,(sigset_denotes_iff m2).mpr h2,Option.some_inj] at hread
    exact signals_injective hread.symm

/-- Signal 64 alone is printed as the empty set is. -/
theorem signal64_is_dropped :
    sigsetData (sigsetBuffer 0x8000000000000000)=some "[]" ∧ sigsetData (sigsetBuffer 0)=some "[]" ∧
      ¬(sigsetData (sigsetBuffer 0x8000000000000000)=sigsetData (sigsetBuffer 0) →
        (0x8000000000000000 : UInt64)=0) ∧
      (sigsetData (sigsetBuffer 0x8000000000000000)).bind readSigset≠
        some (signals 0x8000000000000000) := by
  have hlast : sigsetData (sigsetBuffer 0x8000000000000000)=some "[]" := by decide
  have hempty : sigsetData (sigsetBuffer 0)=some "[]" := by decide
  refine ⟨hlast,hempty,?_,?_⟩
  · rw [hlast,hempty]
    decide
  · rw [hlast]
    decide

end Faithfulness

end StraceGo.SignalSets

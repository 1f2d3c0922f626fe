import Mathlib.Data.List.Infix

/-!
# Buffered writers over a device that may fail

The buffered writer of Go in front of a device each of whose writes may take only
a part and fail. The first failure sticks: nothing is passed on after it. What the
device and the buffer hold is all that was written as long as nothing failed, and
the beginning of it otherwise.
-/

namespace StraceGo.FallibleOutput

/-- A write that failed: how much of it the device took, and the error. -/
structure Failure (E : Type) where
  /-- Elements taken before the failure. -/
  taken : ℕ
  /-- The error. -/
  error : E

/-- Outcome of each write of a device by its number; one that does not fail takes everything. -/
abbrev Device (E : Type) : Type := ℕ → Option (Failure E)

/-- A buffered writer and what the device behind it holds. -/
structure BufferedDevice (A E : Type) where
  /-- Size of the buffer. -/
  size : ℕ
  /-- Buffered elements. -/
  buffer : List A := []
  /-- The buffer holds them. -/
  fits : buffer.length ≤ size := by simp
  /-- Elements the device holds. -/
  contents : List A := []
  /-- Writes of the device so far. -/
  writes : ℕ := 0
  /-- First failure. -/
  failure : Option E := none

namespace BufferedDevice

variable {A E : Type} (device : Device E) (w : BufferedDevice A E) (p : List A)

/-- Room in the buffer. -/
def available : ℕ := w.size-w.buffer.length

/-- One write of the device; the number of elements it took comes with it. -/
def passOn : BufferedDevice A E×ℕ :=
  match device w.writes with
  | none => ({w with contents := w.contents ++ p, writes := w.writes+1},p.length)
  | some failure =>
    ({w with
      contents := w.contents ++ p.take failure.taken
      writes := w.writes+1
      failure := some failure.error},min failure.taken p.length)

/-- Keep what is still buffered after the first elements went on. -/
def keep (taken : ℕ) : BufferedDevice A E where
  size := w.size
  buffer := w.buffer.drop taken
  fits := by
    have hfits := w.fits
    rw [List.length_drop]
    omega
  contents := w.contents
  writes := w.writes
  failure := w.failure

/-- Pass on what is buffered. -/
def flush : BufferedDevice A E :=
  if w.failure.isSome then w
  else if w.buffer.isEmpty then w
  else
    let (passed,taken) := w.passOn device w.buffer
    passed.keep taken

/-- Copy as much as fits into the buffer. -/
def fill : BufferedDevice A E where
  size := w.size
  buffer := w.buffer ++ p.take w.available
  fits := by
    have hfits := w.fits
    rw [List.length_append,List.length_take,available]
    omega
  contents := w.contents
  writes := w.writes
  failure := w.failure

/-- Everything that was taken, by the device or by the buffer. -/
def held : List A := w.contents ++ w.buffer

theorem passOn_contents :
    (w.passOn device p).1.contents=w.contents ++ p.take (w.passOn device p).2 := by
  unfold passOn
  cases device w.writes with
  | none =>
    dsimp only
    rw [List.take_length]
  | some failure =>
    dsimp only
    rw [←List.take_eq_take_min]

theorem passOn_buffer : (w.passOn device p).1.buffer=w.buffer := by
  unfold passOn
  cases device w.writes with
  | none => rfl
  | some failure => rfl

theorem passOn_taken_le : (w.passOn device p).2 ≤ p.length := by
  unfold passOn
  cases device w.writes with
  | none => exact le_rfl
  | some failure => exact Nat.min_le_right _ _

/-- A write of the device that does not fail takes everything. -/
theorem passOn_taken {device : Device E} {w : BufferedDevice A E} {p : List A}
    (h : (w.passOn device p).1.failure=none) : (w.passOn device p).2=p.length := by
  unfold passOn at h ⊢
  cases hdevice : device w.writes with
  | none => rfl
  | some failure =>
    rw [hdevice] at h
    exact absurd h (Option.some_ne_none _)

theorem flush_held : (w.flush device).held=w.held := by
  unfold flush
  split_ifs with hfailed hempty
  · rfl
  · rfl
  · dsimp only [keep,held]
    rw [passOn_contents,passOn_buffer,List.append_assoc,List.take_append_drop]

/-- A flush after which nothing has failed leaves nothing buffered. -/
theorem flush_buffer {device : Device E} {w : BufferedDevice A E}
    (h : (w.flush device).failure=none) : (w.flush device).buffer=[] := by
  unfold flush at h ⊢
  split_ifs at h ⊢ with hfailed hempty
  · rw [h] at hfailed
    exact absurd hfailed Bool.false_ne_true
  · exact List.isEmpty_iff.mp hempty
  · dsimp only [keep] at h ⊢
    rw [passOn_taken h,passOn_buffer,List.drop_length]

theorem flush_contents {device : Device E} {w : BufferedDevice A E}
    (h : (w.flush device).failure=none) : (w.flush device).contents=w.held := by
  rw [←flush_held device,held,flush_buffer h,List.append_nil]

/-- A failure stays. -/
theorem flush_of_failed {device : Device E} {w : BufferedDevice A E}
    (h : w.failure.isSome=true) : w.flush device=w := by
  rw [flush,if_pos h]

theorem fill_held : (w.fill p).held=w.held ++ p.take w.available := by
  simp [held,fill]

/-- Steps a write still has to make. -/
def remaining : ℕ := if w.failure.isSome then 0 else p.length+w.buffer.length+1

theorem remaining_passOn {device : Device E} {w : BufferedDevice A E} {p : List A}
    (hopen : w.failure.isSome=false) (hlarge : w.available < p.length) :
    (w.passOn device p).1.remaining (p.drop (w.passOn device p).2) < w.remaining p := by
  unfold remaining
  rw [hopen,if_neg Bool.false_ne_true]
  cases hafter : (w.passOn device p).1.failure with
  | none =>
    rw [passOn_taken hafter,passOn_buffer,List.drop_length]
    simp only [Option.isSome_none,Bool.false_eq_true,if_false,List.length_nil]
    omega
  | some error =>
    simp only [Option.isSome_some,if_true]
    omega

theorem remaining_flush {device : Device E} {w : BufferedDevice A E} {p : List A}
    (hopen : w.failure.isSome=false) (hbuffer : w.buffer≠[]) :
    ((w.fill p).flush device).remaining (p.drop w.available) < w.remaining p := by
  have hlength : 0 < w.buffer.length := List.length_pos_iff.mpr hbuffer
  unfold remaining
  rw [hopen,if_neg Bool.false_ne_true]
  cases hafter : ((w.fill p).flush device).failure with
  | none =>
    rw [flush_buffer hafter,List.length_drop]
    simp only [Option.isSome_none,Bool.false_eq_true,if_false,List.length_nil]
    omega
  | some error =>
    simp only [Option.isSome_some,if_true]
    omega

/-- Write a piece; the number of elements taken comes with the new writer. -/
def write (w : BufferedDevice A E) (p : List A) : BufferedDevice A E×ℕ :=
  if w.failure.isSome then (w,0)
  else if w.available < p.length then
    if w.buffer.isEmpty then
      let result := (w.passOn device p).1.write (p.drop (w.passOn device p).2)
      (result.1,(w.passOn device p).2+result.2)
    else
      let result := ((w.fill p).flush device).write (p.drop w.available)
      (result.1,min w.available p.length+result.2)
  else (w.fill p,min w.available p.length)
termination_by w.remaining p
decreasing_by
  · rename_i hopen hlarge _
    exact remaining_passOn (Bool.eq_false_iff.mpr hopen) hlarge
  · rename_i hopen _ hempty
    exact remaining_flush (Bool.eq_false_iff.mpr hopen)
      (fun hnil => hempty (List.isEmpty_iff.mpr hnil))

theorem write_of_failed {device : Device E} {w : BufferedDevice A E}
    (h : w.failure.isSome=true) (p : List A) : w.write device p=(w,0) := by
  rw [write,if_pos h]

/-- What a write takes goes behind everything held, and all of it is taken unless
something failed. -/
theorem write_held :
    (w.write device p).1.held=w.held ++ p.take (w.write device p).2 ∧
      (w.write device p).2 ≤ p.length ∧
      ((w.write device p).1.failure=none → (w.write device p).2=p.length) := by
  induction w, p using write.induct (device) with
  | case1 w p hfailed =>
    rw [write_of_failed hfailed]
    refine ⟨(List.append_nil _).symm,Nat.zero_le _,fun hnone => ?_⟩
    rw [hnone] at hfailed
    exact absurd hfailed Bool.false_ne_true
  | case2 w p hopen hlarge hempty ih =>
    rw [write,if_neg hopen,if_pos hlarge,if_pos hempty]
    dsimp only
    have hle := passOn_taken_le device w p
    have hpassed : (w.passOn device p).1.held=w.held ++ p.take (w.passOn device p).2 := by
      rw [held,passOn_contents,passOn_buffer,held,List.isEmpty_iff.mp hempty,List.append_nil,
        List.append_nil]
    obtain ⟨hheld,htaken,hall⟩ := ih
    rw [List.length_drop] at htaken hall
    refine ⟨?_,by omega,fun hnone => ?_⟩
    · rw [hheld,hpassed,List.append_assoc,←List.take_add]
    · have htail := hall hnone
      omega
  | case3 w p hopen hlarge hempty ih =>
    rw [write,if_neg hopen,if_pos hlarge,if_neg hempty]
    dsimp only
    obtain ⟨hheld,htaken,hall⟩ := ih
    rw [List.length_drop] at htaken hall
    have hmin : min w.available p.length=w.available := by omega
    rw [hmin]
    refine ⟨?_,by omega,fun hnone => ?_⟩
    · rw [hheld,flush_held,fill_held,List.append_assoc,←List.take_add]
    · have htail := hall hnone
      omega
  | case4 w p hopen hsmall =>
    rw [write,if_neg hopen,if_neg hsmall]
    dsimp only
    have hmin : min w.available p.length=p.length := by omega
    rw [hmin,fill_held,List.take_of_length_le (by omega),List.take_length]
    exact ⟨rfl,le_rfl,fun _ => rfl⟩

/-- What a writer holds of a stream: all of it while nothing failed, its beginning otherwise. -/
structure Delivers (w : BufferedDevice A E) (stream : List A) : Prop where
  /-- Nothing but the stream is held. -/
  beginning : w.held <+: stream
  /-- Nothing is missing while nothing failed. -/
  complete : w.failure=none → w.held=stream

variable {w} {stream : List A}

theorem Delivers.write (h : w.Delivers stream) :
    (w.write device p).1.Delivers (stream ++ p) := by
  obtain ⟨hheld,hle,hall⟩ := write_held device w p
  cases hfailed : w.failure with
  | none =>
    have hstream : w.held=stream := h.complete hfailed
    rw [hstream] at hheld
    constructor
    · rw [hheld]
      exact List.prefix_append_right_inj stream |>.mpr (List.take_prefix _ p)
    · intro hnone
      rw [hheld,hall hnone,List.take_length]
  | some error =>
    have hsome : w.failure.isSome=true := by rw [hfailed]; rfl
    rw [write_of_failed hsome]
    exact ⟨h.beginning.trans (List.prefix_append stream p),
      fun hnone => absurd (hfailed.symm.trans hnone) (Option.some_ne_none error)⟩

theorem Delivers.flush (h : w.Delivers stream) : (w.flush device).Delivers stream := by
  constructor
  · rw [flush_held]
    exact h.beginning
  · intro hnone
    rw [flush_held]
    cases hfailed : w.failure with
    | none => exact h.complete hfailed
    | some error =>
      have hsome : w.failure.isSome=true := by rw [hfailed]; rfl
      rw [flush_of_failed hsome] at hnone
      exact h.complete hnone

/-- The device holds the beginning of the stream. -/
theorem Delivers.contents_begin (h : w.Delivers stream) : w.contents <+: stream :=
  (List.prefix_append w.contents w.buffer).trans h.beginning

/-- After a flush that did not fail the device holds the whole stream. -/
theorem Delivers.flush_contents (h : w.Delivers stream)
    (hnone : (w.flush device).failure=none) : (w.flush device).contents=stream := by
  have hheld := (h.flush device).complete hnone
  rw [held,flush_buffer hnone,List.append_nil] at hheld
  exact hheld

section Reliable

variable {device : Device E} (hdevice : ∀ n, device n=none)

include hdevice

theorem passOn_failure (w : BufferedDevice A E) (p : List A) :
    (w.passOn device p).1.failure=w.failure := by
  unfold passOn
  rw [hdevice]

theorem flush_failure (w : BufferedDevice A E) : (w.flush device).failure=w.failure := by
  unfold flush
  split_ifs with hfailed hempty
  · rfl
  · rfl
  · exact passOn_failure hdevice w w.buffer

/-- Behind a device that never fails nothing fails. -/
theorem write_failure (w : BufferedDevice A E) (p : List A) :
    (w.write device p).1.failure=w.failure := by
  induction w, p using write.induct (device) with
  | case1 w p hfailed => rw [write_of_failed hfailed]
  | case2 w p hopen hlarge hempty ih =>
    rw [write,if_neg hopen,if_pos hlarge,if_pos hempty]
    exact ih.trans (passOn_failure hdevice w p)
  | case3 w p hopen hlarge hempty ih =>
    rw [write,if_neg hopen,if_pos hlarge,if_neg hempty]
    exact ih.trans (flush_failure hdevice (w.fill p))
  | case4 w p hopen hsmall =>
    rw [write,if_neg hopen,if_neg hsmall]
    rfl

end Reliable

end BufferedDevice

end StraceGo.FallibleOutput

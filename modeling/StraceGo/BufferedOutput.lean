import Mathlib.Data.List.Basic

/-!
# Buffered writers

The buffered writer of Go over a writer that takes everything: a piece that does
not fit fills the buffer, which is then written out, and a large piece goes past
an empty buffer. What has been written out and what is buffered together are all
pieces in their order.
-/

namespace StraceGo.BufferedOutput

/-- A buffered writer with the writes it has passed on. -/
structure BufferedWriter (A : Type) where
  /-- Size of the buffer. -/
  size : ℕ
  /-- Buffered elements. -/
  buffer : List A := []
  /-- The buffer holds them. -/
  fits : buffer.length ≤ size := by simp
  /-- Writes passed on so far. -/
  writes : List (List A) := []

namespace BufferedWriter

variable {A : Type}

/-- Room in the buffer. -/
def available (writer : BufferedWriter A) : ℕ := writer.size-writer.buffer.length

/-- Pass on what is buffered. -/
def flush (writer : BufferedWriter A) : BufferedWriter A :=
  if writer.buffer.isEmpty then writer
  else {size := writer.size, writes := writer.writes ++ [writer.buffer]}

/-- Write past an empty buffer. -/
def writeThrough (writer : BufferedWriter A) (p : List A) : BufferedWriter A :=
  {writer with writes := writer.writes ++ [p]}

/-- Copy as much as fits into the buffer. -/
def fill (writer : BufferedWriter A) (p : List A) : BufferedWriter A where
  size := writer.size
  buffer := writer.buffer ++ p.take writer.available
  fits := by
    have hfits := writer.fits
    rw [List.length_append,List.length_take,available]
    omega
  writes := writer.writes

theorem flush_buffer (writer : BufferedWriter A) : writer.flush.buffer=[] := by
  unfold flush
  split_ifs with hempty
  · exact List.isEmpty_iff.mp hempty
  · rfl

/-- Write a piece; the number of elements taken comes with the new writer. -/
def write (writer : BufferedWriter A) (p : List A) : BufferedWriter A×ℕ :=
  if writer.available < p.length then
    if writer.buffer.isEmpty then
      let result := (writer.writeThrough p).write []
      (result.1,p.length+result.2)
    else
      let result := (writer.fill p).flush.write (p.drop writer.available)
      (result.1,min writer.available p.length+result.2)
  else (writer.fill p,min writer.available p.length)
termination_by p.length+writer.buffer.length
decreasing_by
  · simp only [writeThrough,List.length_nil]
    omega
  · have hbuffer : 0 < writer.buffer.length := by
      rw [List.length_pos_iff]
      intro hnil
      simp_all
    rw [flush_buffer,List.length_drop,List.length_nil]
    omega

/-- Everything that was written, passed on or not. -/
def contents (writer : BufferedWriter A) : List A := writer.writes.flatten ++ writer.buffer

theorem flush_contents (writer : BufferedWriter A) : writer.flush.contents=writer.contents := by
  unfold flush
  split_ifs with hempty
  · rfl
  · simp [contents]

/-- After a flush everything is passed on. -/
theorem flush_writes (writer : BufferedWriter A) :
    writer.flush.writes.flatten=writer.contents := by
  rw [←flush_contents,contents,flush_buffer,List.append_nil]

theorem fill_contents (writer : BufferedWriter A) (p : List A) :
    (writer.fill p).contents=writer.contents ++ p.take writer.available := by
  simp [contents,fill]

/-- A piece goes behind everything that was written, and all of it is taken. -/
theorem write_contents (writer : BufferedWriter A) (p : List A) :
    (writer.write p).1.contents=writer.contents ++ p ∧ (writer.write p).2=p.length := by
  induction writer, p using write.induct with
  | case1 writer p hlarge hempty ih =>
    rw [write,if_pos hlarge,if_pos hempty]
    dsimp only
    have hbuffer : writer.buffer=[] := List.isEmpty_iff.mp hempty
    have hthrough : (writer.writeThrough p).contents=writer.contents ++ p := by
      simp [contents,writeThrough,hbuffer]
    rw [ih.1,ih.2,hthrough,List.append_nil,List.length_nil,Nat.add_zero]
    exact ⟨rfl,rfl⟩
  | case2 writer p hlarge hempty ih =>
    rw [write,if_pos hlarge,if_neg hempty]
    dsimp only
    rw [ih.1,ih.2,flush_contents,fill_contents,List.append_assoc,List.take_append_drop,
      List.length_drop]
    exact ⟨rfl,by omega⟩
  | case3 writer p hfits =>
    rw [write,if_neg hfits]
    dsimp only
    rw [fill_contents,List.take_of_length_le (by omega)]
    exact ⟨rfl,by omega⟩

end BufferedWriter

end StraceGo.BufferedOutput

import Mathlib.Data.List.GetD
import Mathlib.Algebra.Order.Ring.Int
import Mathlib.Tactic.Common

/-!
# Fixed layouts of bytes

Little-endian numbers, bounds-checked slices and records laid out as a list of
pieces. A checked read either stops the program or returns the value at its
offset; a read at the offset of a piece returns that piece. Nothing here names
a particular record.
-/

namespace StraceGo.ByteLayout

/-- Result of code with bounds checks; `none` stands for a run-time panic. -/
abbrev Checked (α : Type) : Type := Option α

/-- Number of a byte sequence, least significant byte first. -/
def value : List UInt8 → ℕ
  | [] => 0
  | byte::rest => byte.toNat+256*value rest

/-- The low bytes of a number, least significant byte first. -/
def bytes : ℕ → ℕ → List UInt8
  | 0, _ => []
  | width+1, n => UInt8.ofNat n::bytes width (n/256)

/-- Bytes of a layout at an offset, as a number. -/
def field (data : List UInt8) (offset width : ℕ) : ℕ := value ((data.drop offset).take width)

/-- Bounds-checked slice expression. -/
def slice (data : List UInt8) (low high : ℕ) : Checked (List UInt8) :=
  if low ≤ high ∧ high ≤ data.length then some ((data.drop low).take (high-low)) else none

/-- Bounds-checked little-endian read at the start of a slice. -/
def uint (width : ℕ) (data : List UInt8) : Checked ℕ :=
  if width ≤ data.length then some (value (data.take width)) else none

/-- Two-byte read through a slice of that size. -/
def uint16At (data : List UInt8) (offset : ℕ) : Checked UInt16 := do
  return UInt16.ofNat (← uint 2 (← slice data offset (offset+2)))

/-- Four-byte read through a slice of that size. -/
def uint32At (data : List UInt8) (offset : ℕ) : Checked UInt32 := do
  return UInt32.ofNat (← uint 4 (← slice data offset (offset+4)))

/-- Eight-byte read through a slice of that size. -/
def uint64At (data : List UInt8) (offset : ℕ) : Checked UInt64 := do
  return UInt64.ofNat (← uint 8 (← slice data offset (offset+8)))

/-- Four-byte read at the start of an open slice. -/
def uint32From (data : List UInt8) (offset : ℕ) : Checked UInt32 := do
  return UInt32.ofNat (← uint 4 (← slice data offset data.length))

/-- Eight-byte read at the start of an open slice. -/
def uint64From (data : List UInt8) (offset : ℕ) : Checked UInt64 := do
  return UInt64.ofNat (← uint 8 (← slice data offset data.length))

@[simp] theorem length_bytes (width n : ℕ) : (bytes width n).length=width := by
  induction width generalizing n with
  | zero => rfl
  | succ width ih => simp [bytes,ih]

/-- Reading back the low bytes of a number gives the number modulo its width. -/
theorem value_bytes (width n : ℕ) : value (bytes width n)=n%256^width := by
  induction width generalizing n with
  | zero => simp [bytes,value,Nat.mod_one]
  | succ width ih =>
    have hbyte : (UInt8.ofNat n).toNat=n%256 := by simp
    rw [bytes,value,ih,hbyte,Nat.pow_succ,Nat.mul_comm (256^width) 256,Nat.mod_mul]

/-- A number that fits its width is read back whole. -/
theorem value_bytes_of_lt {width n : ℕ} (hn : n < 256^width) : value (bytes width n)=n := by
  rw [value_bytes,Nat.mod_eq_of_lt hn]

/-- A byte sequence has a number below the bound of its length. -/
theorem value_lt (data : List UInt8) : value data < 256^data.length := by
  induction data with
  | nil => simp [value]
  | cons byte rest ih =>
    have hbyte : byte.toNat < 256 := byte.toNat_lt
    rw [value,List.length_cons,Nat.pow_succ]
    omega

/-- A number read from a field is below the bound of the field's width. -/
theorem field_lt (data : List UInt8) (offset width : ℕ) : field data offset width < 256^width := by
  have hvalue := value_lt ((data.drop offset).take width)
  have hlength : ((data.drop offset).take width).length ≤ width := by
    rw [List.length_take]
    omega
  exact Nat.lt_of_lt_of_le hvalue (Nat.pow_le_pow_right (by decide) hlength)

theorem toNat_field16 (data : List UInt8) (offset : ℕ) :
    (UInt16.ofNat (field data offset 2)).toNat=field data offset 2 := by
  have hlt := field_lt data offset 2
  simpa using hlt

theorem toNat_field32 (data : List UInt8) (offset : ℕ) :
    (UInt32.ofNat (field data offset 4)).toNat=field data offset 4 := by
  have hlt := field_lt data offset 4
  simpa using hlt

/-- A read inside a part of the data is a read of the data. -/
theorem field_part (data : List UInt8) {low size offset width : ℕ} (h : offset+width ≤ size) :
    field ((data.drop low).take size) offset width=field data (low+offset) width := by
  have hmin : min width (size-offset)=width := by omega
  rw [field,field,List.drop_take,List.take_take,hmin,List.drop_drop]

/-- A read inside the front does not see the bytes behind it. -/
theorem field_append {front rest : List UInt8} {offset width : ℕ}
    (h : offset+width ≤ front.length) :
    field (front++rest) offset width=field front offset width := by
  have hdrop : offset-front.length=0 := by omega
  have htake : width-(front.length-offset)=0 := by omega
  rw [field,field,List.drop_append,hdrop,List.drop_zero,List.take_append,List.length_drop,htake,
    List.take_zero,List.append_nil]

/-- A read behind the front is a read of the bytes behind it. -/
theorem field_behind (front rest : List UInt8) (offset width : ℕ) :
    field (front++rest) (front.length+offset) width=field rest offset width := by
  rw [field,field,← List.drop_drop,List.drop_left]

/-- A slice expression inside the bounds. -/
theorem slice_eq {data : List UInt8} {low high : ℕ} (hlow : low ≤ high)
    (hhigh : high ≤ data.length) : slice data low high=some ((data.drop low).take (high-low)) := by
  rw [slice,if_pos ⟨hlow,hhigh⟩]

/-- A slice up to the end keeps everything after its start. -/
theorem slice_end {data : List UInt8} {low : ℕ} (hlow : low ≤ data.length) :
    slice data low data.length=some (data.drop low) := by
  rw [slice_eq hlow (Nat.le_refl _),List.take_of_length_le (by simp)]

/-- A checked read through an exact slice succeeds when the slice is in bounds. -/
theorem uint_slice {data : List UInt8} {offset width : ℕ} (h : offset+width ≤ data.length) :
    (slice data offset (offset+width)).bind (uint width)=some (field data offset width) := by
  have hlength : width ≤ ((data.drop offset).take width).length := by
    simp only [List.length_take,List.length_drop]
    omega
  rw [slice_eq (by omega) h,Option.bind_some,Nat.add_sub_cancel_left,uint,if_pos hlength,
    List.take_take,Nat.min_self,field]

/-- A checked read at the start of an open slice succeeds when enough bytes are left. -/
theorem uint_from {data : List UInt8} {offset width : ℕ} (h : offset+width ≤ data.length) :
    (slice data offset data.length).bind (uint width)=some (field data offset width) := by
  have hlength : width ≤ (data.drop offset).length := by
    rw [List.length_drop]
    omega
  rw [slice_end (by omega),Option.bind_some,uint,if_pos hlength,field]

theorem uint16At_eq {data : List UInt8} {offset : ℕ} (h : offset+2 ≤ data.length) :
    uint16At data offset=some (UInt16.ofNat (field data offset 2)) := by
  have hread := uint_slice h
  simp only [uint16At,bind,pure] at hread ⊢
  rw [← Option.bind_assoc,hread,Option.bind_some]

theorem uint32At_eq {data : List UInt8} {offset : ℕ} (h : offset+4 ≤ data.length) :
    uint32At data offset=some (UInt32.ofNat (field data offset 4)) := by
  have hread := uint_slice h
  simp only [uint32At,bind,pure] at hread ⊢
  rw [← Option.bind_assoc,hread,Option.bind_some]

theorem uint64At_eq {data : List UInt8} {offset : ℕ} (h : offset+8 ≤ data.length) :
    uint64At data offset=some (UInt64.ofNat (field data offset 8)) := by
  have hread := uint_slice h
  simp only [uint64At,bind,pure] at hread ⊢
  rw [← Option.bind_assoc,hread,Option.bind_some]

theorem uint32From_eq {data : List UInt8} {offset : ℕ} (h : offset+4 ≤ data.length) :
    uint32From data offset=some (UInt32.ofNat (field data offset 4)) := by
  have hread := uint_from h
  simp only [uint32From,bind,pure] at hread ⊢
  rw [← Option.bind_assoc,hread,Option.bind_some]

theorem uint64From_eq {data : List UInt8} {offset : ℕ} (h : offset+8 ≤ data.length) :
    uint64From data offset=some (UInt64.ofNat (field data offset 8)) := by
  have hread := uint_from h
  simp only [uint64From,bind,pure] at hread ⊢
  rw [← Option.bind_assoc,hread,Option.bind_some]

/-- A checked run over a list succeeds if each step does. -/
theorem mapM_isSome {α β : Type} {l : List α} {f : α → Checked β}
    (h : ∀ a∈l, (f a).isSome=true) : (l.mapM f).isSome=true := by
  induction l with
  | nil => rfl
  | cons a l ih =>
    rcases Option.isSome_iff_exists.mp (h a List.mem_cons_self) with ⟨b,hb⟩
    rcases Option.isSome_iff_exists.mp (ih fun c hc => h c (List.mem_cons_of_mem _ hc)) with
      ⟨bs,hbs⟩
    rw [List.mapM_cons,hb,hbs]
    rfl

theorem bind_isSome {α β : Type} {x : Checked α} {f : α → Checked β} (hx : x.isSome=true)
    (hf : ∀ a, x=some a → (f a).isSome=true) : (x >>= f).isSome=true := by
  rcases Option.isSome_iff_exists.mp hx with ⟨a,ha⟩
  rw [ha]
  exact hf a ha

theorem ite_isSome {α : Type} {c : Prop} [Decidable c] {x y : Checked α}
    (hx : c → x.isSome=true) (hy : ¬c → y.isSome=true) : (if c then x else y).isSome=true := by
  split_ifs with h
  · exact hx h
  · exact hy h

theorem getElem?_isSome {data : List UInt8} {i : ℕ} (h : i < data.length) :
    (data[i]?).isSome=true := by
  rw [List.getElem?_eq_getElem h]
  rfl

theorem uint32At_isSome {data : List UInt8} {i : ℕ} (h : i+4 ≤ data.length) :
    (uint32At data i).isSome=true := by
  rw [uint32At_eq h]
  rfl

theorem slice_isSome {data : List UInt8} {low high : ℕ} (hlow : low ≤ high)
    (hhigh : high ≤ data.length) : (slice data low high).isSome=true := by
  rw [slice_eq hlow hhigh]
  rfl

theorem length_slice {low high : ℕ} {data part : List UInt8} (h : slice data low high=some part) :
    part.length=high-low := by
  unfold slice at h
  split_ifs at h with hbounds
  rw [← Option.some_inj.mp h,List.length_take,List.length_drop]
  omega

/-- Offset of a piece in a layout. -/
def offsetOf (pieces : List (List UInt8)) (index : ℕ) : ℕ :=
  ((pieces.take index).map List.length).sum

/-- Offsets add up the widths of the pieces in front. -/
theorem offsetOf_widths {pieces : List (List UInt8)} {widths : List ℕ}
    (hwidths : pieces.map List.length=widths) (index : ℕ) :
    offsetOf pieces index=(widths.take index).sum := by
  rw [offsetOf,List.map_take,hwidths]

/-- Bytes at the offset of a piece start with that piece. -/
theorem drop_offsetOf {pieces : List (List UInt8)} {index : ℕ} {piece : List UInt8}
    (hpiece : pieces[index]?=some piece) (rest : List UInt8) :
    ∃ after, (pieces.flatten++rest).drop (offsetOf pieces index)=piece++after := by
  induction pieces generalizing index with
  | nil => simp at hpiece
  | cons first others ih =>
    cases index with
    | zero =>
      simp only [List.getElem?_cons_zero,Option.some.injEq] at hpiece
      refine ⟨others.flatten++rest,?_⟩
      simp [offsetOf,hpiece]
    | succ index =>
      simp only [List.getElem?_cons_succ] at hpiece
      obtain ⟨after,hafter⟩ := ih hpiece
      refine ⟨after,?_⟩
      have hsplit : offsetOf (first::others) (index+1)=first.length+offsetOf others index := by
        simp [offsetOf]
      rw [hsplit,List.flatten_cons,List.append_assoc,← List.drop_drop,List.drop_left,hafter]

/-- A part read at the offset of a piece is that piece. -/
theorem part_piece (pieces : List (List UInt8)) (index : ℕ) {offset width : ℕ} {piece : List UInt8}
    (hpiece : pieces[index]?=some piece) (hoffset : offsetOf pieces index=offset)
    (hwidth : piece.length=width) (rest : List UInt8) :
    ((pieces.flatten++rest).drop offset).take width=piece := by
  obtain ⟨after,hafter⟩ := drop_offsetOf hpiece rest
  rw [← hoffset,hafter,← hwidth,List.take_left]

/-- A number read at the offset of its piece is the number written there. -/
theorem field_piece (pieces : List (List UInt8)) (index : ℕ) {offset width n : ℕ}
    (hpiece : pieces[index]?=some (bytes width n)) (hoffset : offsetOf pieces index=offset)
    (hn : n < 256^width) (rest : List UInt8) : field (pieces.flatten++rest) offset width=n := by
  rw [field,part_piece pieces index hpiece hoffset (length_bytes width n) rest,
    value_bytes_of_lt hn]

end StraceGo.ByteLayout

import Mathlib.Data.List.Infix
import Mathlib.Algebra.Order.Ring.Int

/-!
# Records of a fixed size

A record is a list of cells whose number does not change. A piece is placed in it
by overwriting a range, and what a program leaves in the record is described by
the range it may have touched and by the pieces that stand at its start. Ranges
one behind the other put their pieces together.
-/

namespace StraceGo.RecordBuffers

variable {A : Type} {before middle after : List A} {piece first second : List A}
variable {offset capacity capacity' : ℕ}

/-- A record with a range overwritten. -/
def overwrite (data : List A) (offset : ℕ) (piece : List A) : List A :=
  data.take offset ++ (piece ++ data.drop (offset+piece.length))

/-- Overwrite a range that lies in the record. -/
def write (data : List A) (offset : ℕ) (piece : List A) : Option (List A) :=
  if offset+piece.length ≤ data.length then some (overwrite data offset piece) else none

theorem length_overwrite (h : offset+piece.length ≤ before.length) :
    (overwrite before offset piece).length=before.length := by
  rw [overwrite,List.length_append,List.length_append,List.length_take,List.length_drop]
  omega

/-- Only the range is overwritten. -/
theorem getElem?_overwrite_of_outside {i : ℕ} (h : offset+piece.length ≤ before.length)
    (hi : i < offset ∨ offset+piece.length ≤ i) :
    (overwrite before offset piece)[i]?=before[i]? := by
  have htake : (before.take offset).length=offset := by
    rw [List.length_take]
    omega
  rw [overwrite]
  rcases hi with hi | hi
  · rw [List.getElem?_append_left (by omega),List.getElem?_take_of_lt hi]
  · rw [List.getElem?_append_right (by omega),htake,List.getElem?_append_right (by omega),
      List.getElem?_drop]
    congr 1
    omega

/-- The range holds the piece. -/
theorem getElem?_overwrite_of_inside {j : ℕ} (h : offset+piece.length ≤ before.length)
    (hj : j < piece.length) : (overwrite before offset piece)[offset+j]?=piece[j]? := by
  have htake : (before.take offset).length=offset := by
    rw [List.length_take]
    omega
  rw [overwrite,List.getElem?_append_right (by omega),htake,Nat.add_sub_cancel_left,
    List.getElem?_append_left hj]

/-- A range may have been touched, and what stands at its start. -/
structure Placed (before after : List A) (offset capacity : ℕ) (content : List A) : Prop where
  /-- The size of the record stays. -/
  length : after.length=before.length
  /-- Nothing is touched outside the range. -/
  outside : ∀ i, i < offset ∨ offset+capacity ≤ i → after[i]?=before[i]?
  /-- The content stands at the start of the range. -/
  inside : ∀ j, j < content.length → after[offset+j]?=content[j]?
  /-- The content fits the range. -/
  fits : content.length ≤ capacity

theorem placed_nil (before : List A) (offset capacity : ℕ) :
    Placed before before offset capacity [] :=
  ⟨rfl,fun _ _ => rfl,fun _ hj => absurd hj (Nat.not_lt_zero _),Nat.zero_le _⟩

theorem placed_overwrite (h : offset+piece.length ≤ before.length) :
    Placed before (overwrite before offset piece) offset piece.length piece :=
  ⟨length_overwrite h,fun _ hi => getElem?_overwrite_of_outside h hi,
    fun _ hj => getElem?_overwrite_of_inside h hj,le_rfl⟩

/-- A larger range holds the content too. -/
theorem Placed.mono (h : Placed before after offset capacity piece)
    (hcapacity : capacity ≤ capacity') : Placed before after offset capacity' piece :=
  ⟨h.length,fun i hi => h.outside i (by omega),h.inside,h.fits.trans hcapacity⟩

/-- What stands in a touched range can be forgotten. -/
theorem Placed.forget (h : Placed before after offset capacity piece) :
    Placed before after offset capacity [] :=
  ⟨h.length,h.outside,fun _ hj => absurd hj (Nat.not_lt_zero _),Nat.zero_le _⟩

/-- A second content right behind the first. -/
theorem Placed.append (hfirst : Placed before middle offset capacity first)
    (hsecond : Placed middle after (offset+first.length) capacity' second) :
    Placed before after offset (capacity+capacity') (first ++ second) := by
  have hfits := hfirst.fits
  have hfits' := hsecond.fits
  refine ⟨hsecond.length.trans hfirst.length,?_,?_,?_⟩
  · intro i hi
    rw [hsecond.outside i (by omega),hfirst.outside i (by omega)]
  · intro j hj
    rw [List.length_append] at hj
    rcases Nat.lt_or_ge j first.length with hlt | hge
    · rw [hsecond.outside _ (.inl (by omega)),hfirst.inside j hlt,List.getElem?_append_left hlt]
    · have hinside := hsecond.inside (j-first.length) (by omega)
      have hindex : offset+first.length+(j-first.length)=offset+j := by omega
      rw [hindex] at hinside
      rw [hinside,List.getElem?_append_right hge]
  · rw [List.length_append]
    omega

/-- A first content placed in front of one that stands behind it already. -/
theorem Placed.prepend
    (hsecond : Placed before middle (offset+first.length) capacity' second)
    (hfirst : Placed middle after offset first.length first) :
    Placed before after offset (first.length+capacity') (first ++ second) := by
  have hfits := hsecond.fits
  refine ⟨hfirst.length.trans hsecond.length,?_,?_,?_⟩
  · intro i hi
    rw [hfirst.outside i (by omega),hsecond.outside i (by omega)]
  · intro j hj
    rw [List.length_append] at hj
    rcases Nat.lt_or_ge j first.length with hlt | hge
    · rw [hfirst.inside j hlt,List.getElem?_append_left hlt]
    · have hinside := hsecond.inside (j-first.length) (by omega)
      have hindex : offset+first.length+(j-first.length)=offset+j := by omega
      rw [hindex] at hinside
      rw [hfirst.outside _ (.inr (by omega)),hinside,List.getElem?_append_right hge]
  · rw [List.length_append]
    omega

/-- The content is read at its place. -/
theorem Placed.read (h : Placed before after offset capacity piece) :
    (after.drop offset).take piece.length=piece := by
  refine List.ext_getElem? fun j => ?_
  rcases Nat.lt_or_ge j piece.length with hlt | hge
  · rw [List.getElem?_take_of_lt hlt,List.getElem?_drop,h.inside j hlt]
  · have hshort : ((after.drop offset).take piece.length).length ≤ j := by
      rw [List.length_take]
      omega
    rw [List.getElem?_eq_none hshort,List.getElem?_eq_none hge]

end StraceGo.RecordBuffers

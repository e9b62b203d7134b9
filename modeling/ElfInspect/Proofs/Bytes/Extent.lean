import ElfInspect.Bytes.Image

/-!
# Extents of an image

Two images agree on an extent when they have the same bytes there; whatever is read from inside it
is then the same in both.  An image holds some bytes at a place when they stand there in a row.
-/

namespace ElfInspect

/-- A range of places in an image. -/
structure Extent where
  /-- The first place. -/
  start : Int
  /-- The number of places. -/
  size : Int
  deriving DecidableEq, Repr

namespace Image

/-- Two images have the same bytes on an extent, as far as either of them reaches. -/
def AgreeOn (left right : Image) (extent : Extent) : Prop :=
  ∀ place : Nat, extent.start ≤ place → place < extent.start + extent.size →
    left.toList[place]? = right.toList[place]?

/-- The bytes stand in the image from a place on. -/
def Holds (image : Image) (place : Nat) (bytes : List UInt8) : Prop :=
  bytes <+: image.toList.drop place

instance (image : Image) (place : Nat) (bytes : List UInt8) : Decidable (image.Holds place bytes) :=
  inferInstanceAs (Decidable (bytes <+: image.toList.drop place))

section Slices

variable {left right : Image} {outer inner extent : Extent}

theorem AgreeOn.mono (agree : left.AgreeOn right outer) (start_le : outer.start ≤ inner.start)
    (stop_le : inner.start + inner.size ≤ outer.start + outer.size) :
    left.AgreeOn right inner := by
  intro place start_le_place place_lt_stop
  exact agree place (by omega) (by omega)

theorem getElem?_slice (image : Image) (start stop place : Nat) :
    (image.slice start stop)[place]? =
      if start + place < stop then image.toList[start + place]? else none := by
  rw [slice_eq, List.getElem?_drop, List.getElem?_take]

theorem length_slice {image : Image} {start stop : Nat} (inside : stop ≤ image.size) :
    (image.slice start stop).length = stop - start := by
  rw [slice_eq, List.length_drop, List.length_take, length_toList]
  omega

theorem AgreeOn.slice_eq (agree : left.AgreeOn right extent) {start stop : Nat}
    (start_le : extent.start ≤ start) (stop_le : stop ≤ extent.start + extent.size) :
    left.slice start stop = right.slice start stop := by
  apply List.ext_getElem?
  intro place
  rw [getElem?_slice, getElem?_slice]
  split
  · exact agree (start + place) (by omega) (by omega)
  · rfl

theorem agreeOn_of_cut {short long : Image} (cut : short.toList <+: long.toList)
    (inside : extent.start + extent.size ≤ short.size) : short.AgreeOn long extent := by
  intro place _ place_lt_stop
  have place_lt : place < short.toList.length := by
    rw [length_toList]
    omega
  rw [List.getElem?_eq_getElem place_lt, List.prefix_iff_getElem?.mp cut place place_lt]

theorem size_le_of_cut {short long : Image} (cut : short.toList <+: long.toList) :
    short.size ≤ long.size := by
  simpa using cut.length_le

theorem slice_of_size_le {image : Image} {start : Nat} (outside : image.size ≤ start)
    (stop : Nat) : image.slice start stop = [] := by
  rw [Image.slice_eq, List.drop_eq_nil_iff, List.length_take, length_toList]
  omega

/-- A slice holds only what the image has. -/
theorem slice_min_size (image : Image) (start stop : Nat) :
    image.slice (min start image.size) (min stop image.size) = image.slice start stop := by
  rw [Image.slice_eq, Image.slice_eq, ← length_toList, ← List.take_eq_take_min]
  by_cases inside : start ≤ image.toList.length
  · rw [Nat.min_eq_left inside]
  · have take_le := List.length_take_le' stop image.toList
    rw [List.drop_eq_nil_of_le (by omega), List.drop_eq_nil_of_le (by omega)]

theorem slice_succ {image : Image} {start stop : Nat} (inside : start < image.toList.length)
    (start_lt : start < stop) :
    image.slice start stop = image.toList[start] :: image.slice (start + 1) stop := by
  have start_lt_length : start < (image.toList.take stop).length := by
    rw [List.length_take]
    omega
  rw [Image.slice_eq, Image.slice_eq, List.drop_eq_getElem_cons start_lt_length,
    List.getElem_take]

end Slices

section Holds

variable {image : Image} {place : Nat}

theorem holds_iff_slice {bytes : List UInt8} :
    image.Holds place bytes ↔ image.slice place (place + bytes.length) = bytes := by
  rw [Holds, List.prefix_iff_eq_take, Image.slice_eq, List.drop_take, Nat.add_sub_cancel_left]
  exact eq_comm

theorem holds_append {front back : List UInt8} :
    image.Holds place (front ++ back) ↔
      image.Holds place front ∧ image.Holds (place + front.length) back := by
  rw [Holds, Holds, Holds, ← List.drop_drop]
  constructor
  · rintro ⟨rest, equation⟩
    rw [← equation]
    simp [List.append_assoc]
  · rintro ⟨⟨rest, equation⟩, back_holds⟩
    rw [← equation] at back_holds ⊢
    simpa [List.append_assoc] using back_holds

theorem Holds.length_le {bytes : List UInt8} (holds : image.Holds place bytes)
    (nonempty : bytes ≠ []) : place + bytes.length ≤ image.size := by
  have bytes_le := List.IsPrefix.length_le holds
  have bytes_pos := List.length_pos_iff.mpr nonempty
  rw [List.length_drop, length_toList] at bytes_le
  omega

theorem Holds.slice_eq {stop : Nat} {bytes : List UInt8} (holds : image.Holds place bytes)
    (stop_le : place + bytes.length ≤ stop) :
    image.slice place stop = bytes ++ image.slice (place + bytes.length) stop := by
  have front_eq : (image.slice place stop).take bytes.length = bytes := by
    rw [Image.slice_eq, List.take_drop, List.take_take, Nat.min_eq_left stop_le,
      ← Image.slice_eq, holds_iff_slice.mp holds]
  have back_eq : (image.slice place stop).drop bytes.length =
      image.slice (place + bytes.length) stop := by
    rw [Image.slice_eq, Image.slice_eq, List.drop_drop]
  calc
    image.slice place stop =
        (image.slice place stop).take bytes.length ++ (image.slice place stop).drop bytes.length :=
      (List.take_append_drop _ _).symm
    _ = bytes ++ image.slice (place + bytes.length) stop := by rw [front_eq, back_eq]

end Holds

/-! ## Runs without a zero -/

theorem getElem?_bytes (image : Image) (place : Nat) :
    image.bytes[place]? = image.toList[place]? := by
  by_cases inside : place < image.size
  · have inside_list : place < image.toList.length := inside
    rw [getElem?_pos image.bytes place inside, List.getElem?_eq_getElem inside_list]
    rfl
  · have outside_list : image.toList.length ≤ place := Nat.le_of_not_lt inside
    rw [getElem?_neg image.bytes place inside, List.getElem?_eq_none outside_list]

theorem le_zeroFrom (image : Image) (start remaining : Nat) :
    start ≤ image.zeroFrom start remaining := by
  induction remaining generalizing start with
  | zero => exact Nat.le_refl start
  | succ remaining induction =>
      rw [zeroFrom]
      split
      · exact Nat.le_refl start
      · exact Nat.le_of_succ_le (induction (start + 1))

private theorem slice_zeroFrom (image : Image) (start remaining : Nat) :
    image.slice start (image.zeroFrom start remaining) =
      (image.slice start (start + remaining)).takeWhile (· ≠ 0) := by
  induction remaining generalizing start with
  | zero => simp [zeroFrom, Image.slice_eq]
  | succ remaining induction =>
      rw [zeroFrom, getElem?_bytes]
      by_cases inside : start < image.toList.length
      · rw [slice_succ inside (by omega : start < start + (remaining + 1)),
          List.getElem?_eq_getElem inside]
        by_cases is_zero : image.toList[start] = 0
        · simp [is_zero, Image.slice_eq]
        · have start_lt : start < image.zeroFrom (start + 1) remaining :=
            le_zeroFrom image (start + 1) remaining
          have rest := induction (start + 1)
          rw [show start + 1 + remaining = start + (remaining + 1) by omega] at rest
          simp [is_zero, slice_succ inside start_lt, rest]
      · simp [slice_of_size_le (Nat.le_of_not_lt inside)]

/-- A run without a zero is the longest such front of a slice. -/
theorem zeroFree_eq (image : Image) {start stop : Nat} (start_le : start ≤ stop) :
    image.zeroFree start stop = (image.slice start stop).takeWhile (· ≠ 0) := by
  rw [zeroFree, slice_zeroFrom, Nat.add_sub_cancel' start_le]

end Image
end ElfInspect

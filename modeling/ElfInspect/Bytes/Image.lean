import ElfInspect.Bytes.Word

/-!
# Byte images

An image is the immutable content of a file.  Its view is the list of its bytes; `slice` is the
only way to look inside.
-/

namespace ElfInspect

/-- The content of a file. -/
structure Image where
  /-- The stored bytes. -/
  bytes : ByteArray

namespace Image

/-- The image that holds the given bytes. -/
def ofList (bytes : List UInt8) : Image := ⟨bytes.toByteArray⟩

/-- The bytes of an image in order. -/
def toList (image : Image) : List UInt8 := image.bytes.data.toList

/-- The number of bytes. -/
def size (image : Image) : Nat := image.bytes.size

/-- The bytes from position `start` up to, but not including, position `stop`. -/
def slice (image : Image) (start stop : Nat) : List UInt8 :=
  (image.bytes.extract start stop).data.toList

/-- A position inside the image: negative positions count back from the end, and positions
outside are moved to the nearest end. -/
def clip (image : Image) (position : Int) : Nat :=
  if position < 0 then (image.size + position).toNat else min position.toNat image.size

/-- The place of the first zero byte at `position` or later, looking at `remaining` bytes; where
there is none, the place after them. -/
def zeroFrom (image : Image) : (position remaining : Nat) → Nat
  | position, 0 => position
  | position, remaining + 1 =>
      if image.bytes[position]? = some 0 then position else zeroFrom image (position + 1) remaining

/-- The longest run of bytes without a zero that starts at `start` and ends before `stop`. -/
def zeroFree (image : Image) (start stop : Nat) : List UInt8 :=
  image.slice start (image.zeroFrom start (stop - start))

@[simp] theorem toList_ofList (bytes : List UInt8) : (ofList bytes).toList = bytes := by
  simp [ofList, toList]

@[simp] theorem length_toList (image : Image) : image.toList.length = image.size := rfl

@[simp] theorem size_ofList (bytes : List UInt8) : (ofList bytes).size = bytes.length := by
  rw [← length_toList, toList_ofList]

/-- A slice is a cut of the byte list. -/
theorem slice_eq (image : Image) (start stop : Nat) :
    image.slice start stop = (image.toList.take stop).drop start := by
  rw [slice, ByteArray.data_extract, Array.toList_extract, List.extract_eq_take_drop,
    ← List.drop_take]
  rfl

/-- Positions from the start are only cut off at the end. -/
theorem clip_of_nonneg {image : Image} {position : Int} (nonneg : 0 ≤ position) :
    image.clip position = min position.toNat image.size := by
  simp [clip, Int.not_lt.mpr nonneg]

end Image

end ElfInspect

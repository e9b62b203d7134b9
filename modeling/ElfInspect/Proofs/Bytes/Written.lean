import Mathlib
import ElfInspect.Proofs.Bytes.Order
import ElfInspect.Proofs.Bytes.Struct

/-!
# Integers written into images

Each byte of an integer has its place by the power of 256 that it counts.  Writing an integer and
reading it are inverse to each other, as a natural number and in two's complement, and depend on
no byte beside those of the word.
-/

namespace ElfInspect

/-- The power of 256 that the byte at an index of a word counts. -/
def ByteOrder.power : ByteOrder → (width index : Nat) → Nat
  | little, _, index => index
  | big, width, index => width - 1 - index

namespace Word

section Count

variable {width : Nat}

theorem count_eq (width : Nat) : count width = 2 ^ (8 * width) := by
  induction width with
  | zero => rfl
  | succ width induction =>
      rw [count, induction, Nat.mul_succ, Nat.pow_add]
      omega

theorem count_eq_double (width_pos : 0 < width) : count width = 2 * 2 ^ (8 * width - 1) := by
  rw [count_eq, ← Nat.pow_succ']
  congr 1
  omega

theorem natCast_count_pos (width : Nat) : (0 : Int) < count width :=
  Int.natCast_pos.mpr (count_pos width)

theorem natCast_count_succ (width : Nat) : (count (width + 1) : Int) = 256 * count width := by
  rw [count, Nat.cast_mul, Nat.cast_ofNat]

/-- The upper half of the words stands for the negative integers. -/
theorem signed_eq_of_pos (width_pos : 0 < width) (word : Nat) :
    signed width word =
      if 2 ^ (8 * width - 1) ≤ (word : Int) then (word : Int) - 2 ^ (8 * width) else word := by
  have half : 2 ^ (8 * width - 1) ≤ (word : Int) ↔ 2 ^ (8 * width - 1) ≤ word := by norm_cast
  have full : (2 : Int) ^ (8 * width) = count width := by
    rw [count_eq]
    norm_cast
  have double := count_eq_double width_pos
  simp only [signed, half, full]
  split <;> split <;> omega

end Count

/-! ## Bytes of integers -/

/-- The bytes of an integer in two's complement. -/
def bytes (order : ByteOrder) (width : Nat) (value : Int) : List UInt8 :=
  (List.range width).map fun index => UInt8.ofInt (value / 256 ^ order.power width index)

/-- The word of a width that an integer is congruent to. -/
def residue (width : Nat) (value : Int) : Nat := (value % count width).toNat

@[simp]
theorem length_bytes (order : ByteOrder) (width : Nat) (value : Int) :
    (bytes order width value).length = width := by
  simp [bytes]

theorem bytes_little_succ (width : Nat) (value : Int) :
    bytes .little (width + 1) value = UInt8.ofInt value :: bytes .little width (value / 256) := by
  rw [bytes, List.range_succ_eq_map, List.map_cons, List.map_map]
  congr 1
  · simp [ByteOrder.power]
  · apply List.map_congr_left
    intro index _
    simp only [Function.comp_apply, ByteOrder.power]
    rw [Int.ediv_ediv_of_nonneg (by norm_num), Int.pow_succ']

theorem bytes_big (width : Nat) (value : Int) :
    bytes .big width value = (bytes .little width value).reverse := by
  apply List.ext_getElem
  · simp
  · intro index _ _
    simp [bytes, ByteOrder.power]

/-- The lowest byte of a residue is that of the integer, and the others are left by the rest. -/
theorem emod_count_succ (width : Nat) (value : Int) :
    value % count (width + 1) = value % 256 + 256 * (value / 256 % count width) := by
  have count_succ := natCast_count_succ width
  have rest_nonneg := Int.emod_nonneg (value / 256) (Int.ne_of_gt (natCast_count_pos width))
  have rest_lt := Int.emod_lt_of_pos (value / 256) (natCast_count_pos width)
  have rest_eq := Int.mul_ediv_add_emod (value / 256) (count width)
  have split_eq : value % 256 + 256 * (value / 256 % count width) +
      (count (width + 1) : Int) * (value / 256 / count width) = value := by
    rw [count_succ, Int.mul_assoc]
    omega
  refine ((Int.ediv_emod_unique ?_).mpr ⟨split_eq, ?_, ?_⟩).2 <;> omega

theorem residue_succ (width : Nat) (value : Int) :
    residue (width + 1) value = (UInt8.ofInt value).toNat + 256 * residue width (value / 256) := by
  have rest_nonneg := Int.emod_nonneg (value / 256) (Int.ne_of_gt (natCast_count_pos width))
  rw [residue, emod_count_succ, residue, UInt8.ofInt, UInt8.toNat_ofNat']
  omega

theorem ofLittle_bytes (width : Nat) (value : Int) :
    ofLittle (bytes .little width value) = residue width value := by
  induction width generalizing value with
  | zero => simp [bytes, ofLittle, residue, count]
  | succ width induction => rw [bytes_little_succ, ofLittle, induction, residue_succ]

theorem decode_bytes (order : ByteOrder) (width : Nat) (value : Int) :
    decode order (bytes order width value) = residue width value := by
  cases order with
  | little => exact ofLittle_bytes width value
  | big => rw [bytes_big, decode, List.reverse_reverse, ofLittle_bytes]

/-- The bytes of an integer are those of its word. -/
theorem bytes_eq_encode (order : ByteOrder) (width : Nat) (value : Int) :
    bytes order width value = encode order width (residue width value) := by
  -- A word is written in one way only, so it is enough to know which word the bytes are.
  have rewritten := encode_decode order (bytes order width value)
  rw [length_bytes, decode_bytes] at rewritten
  exact rewritten.symm

theorem residue_lt (width : Nat) (value : Int) : residue width value < count width := by
  have residue_nonneg := Int.emod_nonneg value (Int.ne_of_gt (natCast_count_pos width))
  have residue_lt_count := Int.emod_lt_of_pos value (natCast_count_pos width)
  rw [residue]
  omega

theorem residue_of_lt {width word : Nat} (fits : word < count width) :
    residue width (word : Int) = word := by
  rw [residue, ← Int.natCast_emod, Nat.mod_eq_of_lt fits, Int.toNat_natCast]

theorem residue_eq_ofSigned {width : Nat} {value : Int} (fits : FitsSigned width value) :
    residue width value = ofSigned width value := by
  obtain ⟨low, high⟩ := fits
  unfold residue ofSigned
  split
  · rw [← Int.add_emod_left, Int.emod_eq_of_lt (by omega) (by omega)]
  · rw [Int.emod_eq_of_lt (by omega) (by omega)]

theorem decode_reverse (order : ByteOrder) (bytes : List UInt8) :
    decode order bytes.reverse = decode order.other bytes := by
  cases order with
  | little => rfl
  | big => simp [decode, ByteOrder.other]

end Word

/-! ## Ways of reading -/

/-- A way in which a word stands for an integer. -/
inductive Reading where
  /-- As a natural number. -/
  | unsigned
  /-- In two's complement. -/
  | signed

namespace Reading

/-- The integers that words of a width stand for. -/
def range : Reading → (width : Nat) → Set Int
  | unsigned, width => Set.Ico 0 (2 ^ (8 * width))
  | signed, width => Set.Ico (-(2 ^ (8 * width - 1))) (2 ^ (8 * width - 1))

/-- The integer that a word of a width stands for. -/
def ofWord : Reading → (width word : Nat) → Int
  | unsigned, _, word => word
  | signed, width, word => Word.signed width word

/-- The integer at an offset of an image. -/
def read : Reading → Image → ByteOrder → (offset width : Int) → Except Fault Int
  | unsigned => Image.unsigned
  | signed => Image.signed

variable {width : Nat} {value : Int}

theorem mem_range_unsigned_iff :
    value ∈ unsigned.range width ↔ 0 ≤ value ∧ value < Word.count width := by
  rw [range, Set.mem_Ico, Word.count_eq]
  push_cast
  rfl

theorem mem_range_signed_iff (width_pos : 0 < width) :
    value ∈ signed.range width ↔ Word.FitsSigned width value := by
  rw [range, Set.mem_Ico, Word.FitsSigned, Word.count_eq_double width_pos]
  push_cast
  omega

theorem ofWord_residue (reading : Reading) (width_pos : 0 < width)
    (fits : value ∈ reading.range width) :
    reading.ofWord width (Word.residue width value) = value := by
  cases reading with
  | unsigned =>
      obtain ⟨nonneg, lt_count⟩ := mem_range_unsigned_iff.mp fits
      rw [ofWord, Word.residue, Int.emod_eq_of_lt nonneg lt_count, Int.toNat_of_nonneg nonneg]
  | signed =>
      have signed_fits := (mem_range_signed_iff width_pos).mp fits
      rw [ofWord, Word.residue_eq_ofSigned signed_fits, Word.signed_ofSigned signed_fits]

theorem residue_ofWord (reading : Reading) {word : Nat} (fits : word < Word.count width) :
    Word.residue width (reading.ofWord width word) = word := by
  cases reading with
  | unsigned => exact Word.residue_of_lt fits
  | signed =>
      rw [ofWord, Word.residue_eq_ofSigned (Word.fitsSigned_signed fits),
        Word.ofSigned_signed fits]

theorem ofWord_mem_range (reading : Reading) (width_pos : 0 < width) {word : Nat}
    (fits : word < Word.count width) : reading.ofWord width word ∈ reading.range width := by
  cases reading with
  | unsigned =>
      exact mem_range_unsigned_iff.mpr ⟨Int.natCast_nonneg word, Int.ofNat_lt.mpr fits⟩
  | signed => exact (mem_range_signed_iff width_pos).mpr (Word.fitsSigned_signed fits)

theorem read_eq (reading : Reading) (image : Image) (order : ByteOrder) (offset width : Int) :
    reading.read image order offset width =
      (image.word order offset width).map (reading.ofWord width.toNat) := by
  cases reading with
  | unsigned => exact Image.unsigned_eq image order offset width
  | signed => rfl

end Reading

/-! ## Bytes written over others -/

namespace Image

/-- The image with other bytes from a place on. -/
def overwrite (image : Image) (place : Nat) (bytes : List UInt8) : Image :=
  ofList (image.toList.take place ++ (bytes ++ image.toList.drop (place + bytes.length)))

/-- The image with an integer written at a place. -/
def write (image : Image) (order : ByteOrder) (place width : Nat) (value : Int) : Image :=
  image.overwrite place (Word.bytes order width value)

variable {image other : Image} {place : Nat}

theorem ext_toList {left right : Image} (same : left.toList = right.toList) : left = right := by
  obtain ⟨⟨left⟩⟩ := left
  obtain ⟨⟨right⟩⟩ := right
  obtain rfl : left = right := Array.toList_inj.mp same
  rfl

theorem take_overwrite (inside : place ≤ image.size) (bytes : List UInt8) :
    (image.overwrite place bytes).toList.take place = image.toList.take place := by
  rw [overwrite, toList_ofList, List.take_append_of_le_length (by simpa using inside),
    List.take_take, Nat.min_self]

theorem drop_overwrite (inside : place ≤ image.size) (bytes : List UInt8) :
    (image.overwrite place bytes).toList.drop place =
      bytes ++ image.toList.drop (place + bytes.length) := by
  rw [overwrite, toList_ofList, List.drop_append_of_le_length (by simpa using inside)]
  simp

theorem holds_overwrite (inside : place ≤ image.size) (bytes : List UInt8) :
    (image.overwrite place bytes).Holds place bytes := by
  rw [Holds, drop_overwrite inside]
  exact List.prefix_append _ _

/-- Of two runs of bytes written over each other the later one counts. -/
theorem overwrite_overwrite (inside : place ≤ image.size) {lost bytes : List UInt8}
    (same_length : lost.length = bytes.length) :
    (image.overwrite place lost).overwrite place bytes = image.overwrite place bytes := by
  apply ext_toList
  rw [overwrite, toList_ofList, take_overwrite inside, ← List.drop_drop, drop_overwrite inside,
    ← same_length, List.drop_left, same_length, overwrite, toList_ofList]

/-- Bytes written where they stand change nothing. -/
theorem Holds.overwrite_eq {bytes : List UInt8} (holds : image.Holds place bytes) :
    image.overwrite place bytes = image := by
  apply ext_toList
  obtain ⟨rest, rest_eq⟩ := holds
  rw [overwrite, toList_ofList, ← List.drop_drop, ← rest_eq, List.drop_left, rest_eq,
    List.take_append_drop]

theorem Holds.of_agreeOn {bytes : List UInt8} (holds : image.Holds place bytes)
    (agree : other.AgreeOn image ⟨place, bytes.length⟩) : other.Holds place bytes := by
  rw [holds_iff_slice] at holds ⊢
  rw [agree.slice_eq (Int.le_refl _) (by push_cast; omega), holds]

end Image

/-! ## Reading where it was written -/

namespace Reading

section Places

variable {image other : Image} {order : ByteOrder} {width place : Nat} {value : Int}
  (reading : Reading) (supported : width = 1 ∨ width = 2 ∨ width = 4 ∨ width = 8)

include supported

theorem read_of_inside (inside : place + width ≤ image.size) :
    reading.read image order place width =
      .ok (reading.ofWord width (image.wordAt order place width)) := by
  rw [read_eq, Image.word_of_inside (by omega) (by omega) (by omega), Int.toNat_natCast]
  rfl

/-- An integer is read where its bytes stand. -/
theorem read_of_holds (fits : value ∈ reading.range width)
    (holds : image.Holds place (Word.bytes order width value)) :
    reading.read image order place width = .ok value := by
  have width_pos : 0 < width := by omega
  rw [Word.bytes_eq_encode, Struct.holds_word_iff image order place width_pos
    (Word.residue_lt width value)] at holds
  obtain ⟨inside, word_eq⟩ := holds
  rw [reading.read_of_inside supported inside, word_eq, reading.ofWord_residue width_pos fits]

/-- The bytes of an integer stand where it is read. -/
theorem holds_bytes (inside : place + width ≤ image.size) :
    image.Holds place
      (Word.bytes order width (reading.ofWord width (image.wordAt order place width))) := by
  have width_pos : 0 < width := by omega
  have word_lt : image.wordAt order place width < Word.count width :=
    Image.wordAt_lt (by omega) (by omega)
  rw [Word.bytes_eq_encode, reading.residue_ofWord word_lt,
    Struct.holds_word_iff image order place width_pos word_lt]
  exact ⟨inside, rfl⟩

theorem read_eq_error_iff (image : Image) (order : ByteOrder) (offset : Int) (fault : Fault) :
    reading.read image order offset width = .error fault ↔
      (offset < 0 ∨ image.size < offset + width) ∧
        fault = .outOfBounds ⟨"read", offset, width, image.size⟩ := by
  have int_supported : (width : Int) = 1 ∨ (width : Int) = 2 ∨ (width : Int) = 4 ∨
      (width : Int) = 8 := by omega
  rw [read_eq, Image.word, if_pos int_supported]
  split
  · rename_i inside
    simp only [Except.map, reduceCtorEq, false_iff]
    omega
  · have outside : offset < 0 ∨ (image.size : Int) < offset + width := by omega
    simp only [Except.map, Except.error.injEq, outside, true_and]
    exact eq_comm

theorem signed_eq (image : Image) (order : ByteOrder) (offset : Int) :
    image.signed order offset width =
      (image.unsigned order offset width).map fun value =>
        if 2 ^ (8 * width - 1) ≤ value then value - 2 ^ (8 * width) else value := by
  have width_pos : 0 < width := by omega
  rw [Image.signed, Image.unsigned]
  cases image.word order offset width with
  | error fault => rfl
  | ok word => exact congrArg Except.ok (Word.signed_eq_of_pos width_pos word)

/-- Bytes that stand the other way round are read in the other order. -/
theorem read_reversed (inside : place + width ≤ image.size) {otherPlace : Nat}
    (holds : other.Holds otherPlace (image.slice place (place + width)).reverse) :
    reading.read other order otherPlace width = reading.read image order.other place width := by
  have reversed_length : (image.slice place (place + width)).reverse.length = width := by
    rw [List.length_reverse, Image.length_slice inside, Nat.add_sub_cancel_left]
  have nonempty : (image.slice place (place + width)).reverse ≠ [] := by
    rw [← List.length_pos_iff, reversed_length]
    omega
  have other_inside := holds.length_le nonempty
  have other_slice := Image.holds_iff_slice.mp holds
  rw [reversed_length] at other_inside other_slice
  rw [reading.read_of_inside supported other_inside, reading.read_of_inside supported inside,
    Image.wordAt_natCast, Image.wordAt_natCast, other_slice, Word.decode_reverse]

end Places

/-- Reading fails exactly where the word leaves the image, and in two's complement the upper half of
the words is moved below zero.  Inside the image an integer that was written is read, whatever
stands beside it, and one that was read gives back what was written over.  In the other byte order
the bytes count from the back. -/
theorem reading_inverts_writing (reading : Reading) (image : Image) (order : ByteOrder)
    {width : Nat} (supported : width = 1 ∨ width = 2 ∨ width = 4 ∨ width = 8) :
    (∀ (offset : Int) (fault : Fault),
      reading.read image order offset width = .error fault ↔
        (offset < 0 ∨ image.size < offset + width) ∧
          fault = .outOfBounds ⟨"read", offset, width, image.size⟩) ∧
      (∀ offset : Int,
        image.signed order offset width =
          (image.unsigned order offset width).map fun value =>
            if 2 ^ (8 * width - 1) ≤ value then value - 2 ^ (8 * width) else value) ∧
      ∀ place : Nat, place + width ≤ image.size →
        (∀ value ∈ reading.range width, ∀ other : Image,
          other.AgreeOn (image.write order place width value) ⟨place, width⟩ →
            reading.read other order place width = .ok value) ∧
        (∃ value ∈ reading.range width,
          reading.read image order place width = .ok value ∧
            ∀ lost : List UInt8, lost.length = width →
              (image.overwrite place lost).write order place width value = image) ∧
        ∀ (other : Image) (otherPlace : Nat),
          other.Holds otherPlace (image.slice place (place + width)).reverse →
            reading.read other order otherPlace width =
              reading.read image order.other place width := by
  refine ⟨reading.read_eq_error_iff supported image order, signed_eq supported image order, ?_⟩
  intro place inside
  have place_inside : place ≤ image.size := by omega
  refine ⟨?_, ?_, fun other otherPlace => reading.read_reversed supported inside⟩
  · intro value fits other agree
    have written : (image.write order place width value).Holds place
        (Word.bytes order width value) := Image.holds_overwrite place_inside _
    exact reading.read_of_holds supported fits
      (written.of_agreeOn (by rwa [Word.length_bytes]))
  · have word_lt : image.wordAt order place width < Word.count width :=
      Image.wordAt_lt (by omega) (by omega)
    refine ⟨_, reading.ofWord_mem_range (by omega) word_lt,
      reading.read_of_inside supported inside, ?_⟩
    intro lost lost_length
    rw [Image.write, Image.overwrite_overwrite place_inside (by simpa using lost_length),
      (reading.holds_bytes supported inside).overwrite_eq]

/-- The lowest integer of eight bytes, its highest byte first, is read back from among other bytes;
eight bytes that start two places later leave the image. -/
theorem lowest_reading_inverts_writing :
    let image := Image.ofList [1, 2, 3, 4, 5, 6, 7, 8, 9, 10]
    let other := Image.ofList [0, 0x80, 0, 0, 0, 0, 0, 0, 0, 0xff]
    let turned := Image.ofList [9, 8, 7, 6, 5, 4, 3, 2]
    1 + 8 ≤ image.size ∧ -(2 ^ 63) ∈ signed.range 8 ∧
      other.AgreeOn (image.write .big 1 8 (-(2 ^ 63))) ⟨1, 8⟩ ∧
      signed.read other .big 1 8 = .ok (-(2 ^ 63)) ∧
      signed.read image .big 3 8 = .error (.outOfBounds ⟨"read", 3, 8, 10⟩) ∧
      (∃ value, signed.read image .big 1 8 = .ok value ∧
        (image.overwrite 1 [0, 0, 0, 0, 0, 0, 0, 0]).write .big 1 8 value = image) ∧
      turned.Holds 0 (image.slice 1 9).reverse ∧
      signed.read turned .big 0 8 = signed.read image .little 1 8 := by
  intro image other turned
  have supported : 8 = 1 ∨ 8 = 2 ∨ 8 = 4 ∨ 8 = 8 := by decide
  have inside : 1 + 8 ≤ image.size := by decide
  have lowest : -(2 ^ 63) ∈ signed.range 8 := by
    rw [range, Set.mem_Ico]
    decide
  have agree : other.AgreeOn (image.write .big 1 8 (-(2 ^ 63))) ⟨1, 8⟩ := by
    intro place start_le lt_stop
    have low : 1 ≤ place := by simpa using start_le
    have high : place < 9 := by simpa using lt_stop
    interval_cases place <;> decide +kernel
  have reversed : turned.Holds 0 (image.slice 1 9).reverse := by decide +kernel
  obtain ⟨failure, _, within⟩ := reading_inverts_writing signed image .big supported
  obtain ⟨read_back, ⟨value, _, read, restored⟩, backwards⟩ := within 1 inside
  exact ⟨inside, lowest, agree, read_back _ lowest other agree,
    (failure 3 _).mpr ⟨by decide, rfl⟩, ⟨value, read, restored _ rfl⟩, reversed,
    backwards turned 0 reversed⟩

end Reading
end ElfInspect

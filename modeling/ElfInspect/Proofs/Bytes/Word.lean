import ElfInspect.Bytes.Word

/-!
# Words invert their encoding

Every number below `Word.count width` is the value of exactly one word of that width, in either
byte order, and so is every integer of the signed range of that width in two's complement.
-/

namespace ElfInspect
namespace Word

@[simp]
theorem length_toLittle (width value : Nat) : (toLittle width value).length = width := by
  induction width generalizing value with
  | zero => rfl
  | succ width induction => simp [toLittle, induction]

theorem ofLittle_toLittle {width value : Nat} (fits : value < count width) :
    ofLittle (toLittle width value) = value := by
  induction width generalizing value with
  | zero =>
      have value_zero : value = 0 := Nat.lt_one_iff.mp fits
      simp [toLittle, ofLittle, value_zero]
  | succ width induction =>
      have rest_fits : value / 256 < count width :=
        Nat.div_lt_of_lt_mul (by simpa [count] using fits)
      have lowest : (UInt8.ofNat (value % 256)).toNat = value % 256 := by
        rw [UInt8.toNat_ofNat']
        omega
      rw [toLittle, ofLittle, induction rest_fits, lowest]
      omega

theorem ofLittle_lt (bytes : List UInt8) : ofLittle bytes < count bytes.length := by
  induction bytes with
  | nil => exact Nat.one_pos
  | cons byte rest induction =>
      have byte_lt : byte.toNat < 256 := byte.toNat_lt
      simp only [ofLittle, List.length_cons, count]
      omega

theorem toLittle_ofLittle (bytes : List UInt8) :
    toLittle bytes.length (ofLittle bytes) = bytes := by
  induction bytes with
  | nil => rfl
  | cons byte rest induction =>
      have byte_lt : byte.toNat < 256 := byte.toNat_lt
      have lowest : (byte.toNat + 256 * ofLittle rest) % 256 = byte.toNat := by omega
      have others : (byte.toNat + 256 * ofLittle rest) / 256 = ofLittle rest := by omega
      rw [List.length_cons, ofLittle, toLittle, lowest, others, induction, UInt8.ofNat_toNat]

@[simp]
theorem length_encode (order : ByteOrder) (width value : Nat) :
    (encode order width value).length = width := by
  cases order <;> simp [encode]

theorem decode_encode (order : ByteOrder) {width value : Nat} (fits : value < count width) :
    decode order (encode order width value) = value := by
  cases order <;> simp [encode, decode, ofLittle_toLittle fits]

theorem decode_lt (order : ByteOrder) (bytes : List UInt8) :
    decode order bytes < count bytes.length := by
  cases order with
  | little => exact ofLittle_lt bytes
  | big => simpa [decode] using ofLittle_lt bytes.reverse

theorem encode_decode (order : ByteOrder) (bytes : List UInt8) :
    encode order bytes.length (decode order bytes) = bytes := by
  cases order with
  | little => exact toLittle_ofLittle bytes
  | big =>
      have reversed := toLittle_ofLittle bytes.reverse
      rw [List.length_reverse] at reversed
      rw [encode, decode, reversed, List.reverse_reverse]

/-! ## Two's complement -/

/-- The integer is in the signed range of words of a width. -/
def FitsSigned (width : Nat) (value : Int) : Prop :=
  -(count width : Int) ≤ 2 * value ∧ 2 * value < count width

instance (width : Nat) (value : Int) : Decidable (FitsSigned width value) :=
  inferInstanceAs (Decidable (_ ∧ _))

/-- The word that stands for an integer in two's complement. -/
def ofSigned (width : Nat) (value : Int) : Nat :=
  if value < 0 then (count width + value).toNat else value.toNat

variable {width : Nat}

theorem ofSigned_lt {value : Int} (fits : FitsSigned width value) :
    ofSigned width value < count width := by
  obtain ⟨low, high⟩ := fits
  unfold ofSigned
  split <;> omega

theorem signed_ofSigned {value : Int} (fits : FitsSigned width value) :
    signed width (ofSigned width value) = value := by
  obtain ⟨low, high⟩ := fits
  by_cases negative : value < 0
  · rw [ofSigned, if_pos negative, signed, if_neg (by omega)]
    omega
  · rw [ofSigned, if_neg negative, signed, if_pos (by omega)]
    omega

theorem fitsSigned_signed {word : Nat} (fits : word < count width) :
    FitsSigned width (signed width word) := by
  unfold FitsSigned signed
  split <;> omega

theorem ofSigned_signed {word : Nat} (fits : word < count width) :
    ofSigned width (signed width word) = word := by
  by_cases low : 2 * word < count width
  · rw [signed, if_pos low, ofSigned, if_neg (by omega)]
    omega
  · rw [signed, if_neg low, ofSigned, if_pos (by omega)]
    omega

end Word
end ElfInspect

import ElfInspect.Text.Utf8
import Mathlib.Tactic.SplitIfs

/-!
# Texts read back from their bytes

Whatever follows it, a character is read back from its own bytes, and only bytes that are zero give
the character with code zero.
-/

namespace ElfInspect
namespace Utf8

/-- The bytes of a text. -/
def encode (text : String) : List UInt8 := text.toUTF8.data.toList

theorem encode_eq (text : String) : encode text = text.toList.flatMap String.utf8EncodeChar := by
  have bytes_eq : text.toUTF8 = text.toList.utf8Encode := by
    rw [String.toUTF8_eq_toByteArray, ← String.toByteArray_ofList, String.ofList_toList]
  rw [encode, bytes_eq, List.utf8Encode, List.data_toByteArray]

theorem encode_ofList (chars : List Char) :
    encode (String.ofList chars) = chars.flatMap String.utf8EncodeChar := by
  rw [encode_eq, String.toList_ofList]

theorem encode_ofList_append (front back : List Char) :
    encode (String.ofList (front ++ back)) =
      encode (String.ofList front) ++ encode (String.ofList back) := by
  rw [encode_ofList, encode_ofList, encode_ofList, List.flatMap_append]

theorem length_encode_pos {chars : List Char} (nonempty : chars ≠ []) :
    0 < (encode (String.ofList chars)).length := by
  obtain ⟨char, rest, rfl⟩ := List.exists_cons_of_ne_nil nonempty
  rw [encode_ofList, List.flatMap_cons, List.length_append, String.length_utf8EncodeChar]
  have char_pos := char.utf8Size_pos
  omega

/-! ## Characters -/

section Characters

variable {state after : State} {byte low high : UInt8} {chars : List Char} {rest : List UInt8}
  {owed bits code : Nat}

theorem next_last (inside : low ≤ byte ∧ byte ≤ high) :
    next (.within 0 low high code) byte =
      ([Char.ofNat (code * 64 + (byte.toNat - 0x80))], .start) := by
  simp only [next, if_pos inside]

theorem next_more (inside : low ≤ byte ∧ byte ≤ high) :
    next (.within (owed + 1) low high code) byte =
      ([], .within owed 0x80 0xBF (code * 64 + (byte.toNat - 0x80))) := by
  simp only [next, if_pos inside]

/-- A byte that cannot go on with the character begun is read as if it stood alone. -/
theorem next_outside (outside : ¬(low ≤ byte ∧ byte ≤ high)) :
    next (.within owed low high code) byte =
      (replacement :: (first byte).1, (first byte).2) := by
  simp only [next, if_neg outside]

theorem decodeFrom_cons (step : next state byte = (chars, after)) :
    decodeFrom state (byte :: rest) = chars ++ decodeFrom after rest := by
  rw [decodeFrom, step]

theorem decodeFrom_first (opened : first byte = (chars, after)) :
    decodeFrom .start (byte :: rest) = chars ++ decodeFrom after rest :=
  decodeFrom_cons opened

theorem first_one : ∀ bits, bits < 128 →
    first (UInt8.ofNat bits) = ([Char.ofNat bits], .start) := by
  decide

theorem first_two : ∀ bits, bits < 32 → 2 ≤ bits →
    first (UInt8.ofNat (bits + 192)) = ([], .within 0 0x80 0xBF bits) := by
  decide

/-- The second of three bytes is kept from long forms and from surrogates. -/
theorem first_three : ∀ bits, bits < 16 →
    first (UInt8.ofNat (bits + 224)) =
      ([], .within 1 (if bits = 0 then 0xA0 else 0x80)
        (if bits = 13 then 0x9F else 0xBF) bits) := by
  decide

/-- The second of four bytes is kept from long forms and from codes without a character. -/
theorem first_four : ∀ bits, bits < 5 →
    first (UInt8.ofNat (bits + 240)) =
      ([], .within 2 (if bits = 0 then 0x90 else 0x80) (if bits = 4 then 0x8F else 0xBF) bits) := by
  decide

theorem toNat_tail (bits_lt : bits < 64) : (UInt8.ofNat (bits + 128)).toNat = bits + 128 := by
  rw [UInt8.toNat_ofNat']
  omega

theorem tail_inside (bits_lt : bits < 64) (low_le : low.toNat ≤ bits + 128)
    (le_high : bits + 128 ≤ high.toNat) :
    low ≤ UInt8.ofNat (bits + 128) ∧ UInt8.ofNat (bits + 128) ≤ high := by
  rw [UInt8.le_iff_toNat_le, UInt8.le_iff_toNat_le, toNat_tail bits_lt]
  exact ⟨low_le, le_high⟩

theorem decodeFrom_last (bits_lt : bits < 64) (low_le : low.toNat ≤ bits + 128)
    (le_high : bits + 128 ≤ high.toNat) :
    decodeFrom (.within 0 low high code) (UInt8.ofNat (bits + 128) :: rest) =
      Char.ofNat (code * 64 + bits) :: decodeFrom .start rest := by
  rw [decodeFrom_cons (next_last (tail_inside bits_lt low_le le_high)), toNat_tail bits_lt,
    Nat.add_sub_cancel, List.singleton_append]

theorem decodeFrom_more (bits_lt : bits < 64) (low_le : low.toNat ≤ bits + 128)
    (le_high : bits + 128 ≤ high.toNat) :
    decodeFrom (.within (owed + 1) low high code) (UInt8.ofNat (bits + 128) :: rest) =
      decodeFrom (.within owed 0x80 0xBF (code * 64 + bits)) rest := by
  rw [decodeFrom_cons (next_more (tail_inside bits_lt low_le le_high)), toNat_tail bits_lt,
    Nat.add_sub_cancel, List.nil_append]

/-- A character is read back from its bytes. -/
theorem decodeFrom_utf8EncodeChar (char : Char) (rest : List UInt8) :
    decodeFrom .start (String.utf8EncodeChar char ++ rest) = char :: decodeFrom .start rest := by
  have valid : char.toNat < 0xD800 ∨ 0xDFFF < char.toNat ∧ char.toNat < 0x110000 := char.valid
  have code_eq : char.val.toNat = char.toNat := rfl
  have char_eq {code : Nat} (same : code = char.toNat) : Char.ofNat code = char := by
    rw [same, Char.ofNat_toNat]
  simp only [String.utf8EncodeChar, code_eq]
  -- The four lengths of a character, by the size of its code.
  by_cases one : char.toNat ≤ 127
  · rw [if_pos one, List.singleton_append, decodeFrom_first (first_one char.toNat (by omega)),
      char_eq rfl, List.singleton_append]
  rw [if_neg one]
  by_cases two : char.toNat ≤ 2047
  · rw [if_pos two, List.cons_append, List.singleton_append,
      decodeFrom_first (first_two (char.toNat / 64 % 32) (by omega) (by omega)), List.nil_append,
      decodeFrom_last (by omega) (by simp) (by simp; omega), char_eq (by omega)]
  rw [if_neg two]
  by_cases three : char.toNat ≤ 65535
  · rw [if_pos three, List.cons_append, List.cons_append, List.singleton_append,
      decodeFrom_first (first_three (char.toNat / 4096 % 16) (by omega)), List.nil_append,
      decodeFrom_more (by omega) (by split <;> simp; omega) (by split <;> simp <;> omega),
      decodeFrom_last (by omega) (by simp) (by simp; omega), char_eq (by omega)]
  · rw [if_neg three, List.cons_append, List.cons_append, List.cons_append, List.singleton_append,
      decodeFrom_first (first_four (char.toNat / 262144 % 8) (by omega)), List.nil_append,
      decodeFrom_more (by omega) (by split <;> simp; omega) (by split <;> simp <;> omega),
      decodeFrom_more (by omega) (by simp) (by simp; omega),
      decodeFrom_last (by omega) (by simp) (by simp; omega), char_eq (by omega)]

theorem decodeFrom_encode (text : String) (rest : List UInt8) :
    decodeFrom .start (encode text ++ rest) = text.toList ++ decodeFrom .start rest := by
  rw [encode_eq]
  induction text.toList with
  | nil => rfl
  | cons char chars induction =>
      rw [List.flatMap_cons, List.append_assoc, decodeFrom_utf8EncodeChar, induction,
        List.cons_append]

/-- A text is read back from its bytes. -/
theorem decode_encode (text : String) : decode (encode text) = text := by
  have chars_eq := decodeFrom_encode text []
  rw [List.append_nil, decodeFrom, finish, List.append_nil] at chars_eq
  rw [decode, chars_eq, String.ofList_toList]

end Characters

/-! ## The character with code zero -/

/-- A zero byte is part of no character but the one with code zero. -/
theorem eq_zero_of_mem_utf8EncodeChar {char : Char}
    (member : (0 : UInt8) ∈ String.utf8EncodeChar char) : char = '\x00' := by
  have code_eq : char.val.toNat = char.toNat := rfl
  have zero_iff (bits : Nat) : (0 : UInt8) = UInt8.ofNat bits ↔ bits % 256 = 0 := by
    rw [← UInt8.toNat_inj, UInt8.toNat_ofNat', eq_comm]
    rfl
  simp only [String.utf8EncodeChar, code_eq] at member
  split at member
  case isTrue one =>
    rw [List.mem_singleton, zero_iff] at member
    rw [← Char.ofNat_toNat char, show char.toNat = 0 by omega]
  case isFalse =>
    exfalso
    split at member
    · simp only [List.mem_cons, List.not_mem_nil, or_false, zero_iff] at member
      omega
    · split at member <;>
        simp only [List.mem_cons, List.not_mem_nil, or_false, zero_iff] at member <;> omega

theorem zero_not_mem_encode {text : String} (free : '\x00' ∉ text.toList) :
    (0 : UInt8) ∉ encode text := by
  rw [encode_eq, List.mem_flatMap]
  rintro ⟨char, member, zero_mem⟩
  rw [eq_zero_of_mem_utf8EncodeChar zero_mem] at member
  exact free member

/-- The number of codes that a character can still have when some bytes are missing. -/
def openCodes : (missing : Nat) → Nat
  | 0 => 1
  | missing + 1 => 64 * openCodes missing

/-- Whichever bytes go on with it, the character begun will have a code of its own, and not zero. -/
def State.Sound : State → Prop
  | .start => True
  | .within owed low high code =>
      0x80 ≤ low.toNat ∧ high.toNat ≤ 0xBF ∧
        0 < (code * 64 + (low.toNat - 0x80)) * openCodes owed ∧
        ((code * 64 + (high.toNat - 0x80) + 1) * openCodes owed ≤ 0xD800 ∨
          0xE000 ≤ (code * 64 + (low.toNat - 0x80)) * openCodes owed ∧
            (code * 64 + (high.toNat - 0x80) + 1) * openCodes owed ≤ 0x110000)

section Sound

variable {state : State} {byte low high : UInt8} {owed code : Nat}

theorem ofNat_ne_zero (valid : code.isValidChar) (pos : 0 < code) :
    Char.ofNat code ≠ '\x00' := by
  have code_eq : (Char.ofNat code).toNat = code := by
    rw [Char.ofNat, dif_pos valid]
    rfl
  intro is_zero
  rw [is_zero] at code_eq
  exact Nat.ne_of_lt pos code_eq

theorem sound_first (byte : UInt8) : (first byte).2.Sound := by
  unfold first
  simp only [UInt8.le_iff_toNat_le, ← UInt8.toNat_inj, UInt8.reduceToNat]
  split_ifs
  all_goals simp only [State.Sound, openCodes, UInt8.reduceToNat]
  all_goals omega

theorem zero_not_mem_first (nonzero : byte ≠ 0) : '\x00' ∉ (first byte).1 := by
  have byte_ne : byte.toNat ≠ 0 := fun is_zero => nonzero (UInt8.toNat_inj.mp is_zero)
  unfold first
  split_ifs
  case pos ascii =>
    have ascii_le : byte.toNat ≤ 0x7F := UInt8.le_iff_toNat_le.mp ascii
    have valid : byte.toNat.isValidChar := by
      rw [Nat.isValidChar]
      omega
    rw [List.mem_singleton]
    exact (ofNat_ne_zero valid (by omega)).symm
  all_goals simp [replacement]

/-- A byte that goes on with a character leaves it as many codes as that byte does. -/
theorem sound_more (sound : State.Sound (.within (owed + 1) low high code))
    (low_le : low.toNat ≤ byte.toNat) (le_high : byte.toNat ≤ high.toNat) :
    State.Sound (.within owed 0x80 0xBF (code * 64 + (byte.toNat - 0x80))) := by
  obtain ⟨low_tail, high_tail, pos, valid⟩ := sound
  have least := Nat.mul_le_mul_right (openCodes (owed + 1))
    (show code * 64 + (low.toNat - 0x80) ≤ code * 64 + (byte.toNat - 0x80) by omega)
  have most := Nat.mul_le_mul_right (openCodes (owed + 1))
    (show code * 64 + (byte.toNat - 0x80) + 1 ≤ code * 64 + (high.toNat - 0x80) + 1 by omega)
  have next_least : ((code * 64 + (byte.toNat - 0x80)) * 64 + 0) * openCodes owed =
      (code * 64 + (byte.toNat - 0x80)) * openCodes (owed + 1) := by
    rw [openCodes, Nat.add_zero, Nat.mul_assoc]
  have next_most : ((code * 64 + (byte.toNat - 0x80)) * 64 + 63 + 1) * openCodes owed =
      (code * 64 + (byte.toNat - 0x80) + 1) * openCodes (owed + 1) := by
    rw [openCodes, ← Nat.mul_assoc, Nat.add_mul _ 1 64]
  refine ⟨Nat.le_refl _, Nat.le_refl _, ?_⟩
  simp only [UInt8.reduceToNat, Nat.sub_self, Nat.reduceSub, next_least, next_most]
  omega

theorem sound_next (sound : state.Sound) (byte : UInt8) : (next state byte).2.Sound := by
  cases state with
  | start => exact sound_first byte
  | within owed low high code =>
      by_cases inside : low ≤ byte ∧ byte ≤ high
      · cases owed with
        | zero =>
            rw [next_last inside]
            trivial
        | succ owed =>
            rw [next_more inside]
            exact sound_more sound (UInt8.le_iff_toNat_le.mp inside.1)
              (UInt8.le_iff_toNat_le.mp inside.2)
      · rw [next_outside inside]
        exact sound_first byte

theorem zero_not_mem_next (sound : state.Sound) (nonzero : byte ≠ 0) :
    '\x00' ∉ (next state byte).1 := by
  cases state with
  | start => exact zero_not_mem_first nonzero
  | within owed low high code =>
      by_cases inside : low ≤ byte ∧ byte ≤ high
      · cases owed with
        | zero =>
            have low_le := UInt8.le_iff_toNat_le.mp inside.1
            have le_high := UInt8.le_iff_toNat_le.mp inside.2
            simp only [State.Sound, openCodes] at sound
            have valid : (code * 64 + (byte.toNat - 0x80)).isValidChar := by
              rw [Nat.isValidChar]
              omega
            rw [next_last inside, List.mem_singleton]
            exact (ofNat_ne_zero valid (by omega)).symm
        | succ owed =>
            rw [next_more inside]
            exact List.not_mem_nil
      · rw [next_outside inside, List.mem_cons, not_or]
        exact ⟨by decide, zero_not_mem_first nonzero⟩

/-- Bytes without a zero give a text without the character with code zero. -/
theorem zero_not_mem_decodeFrom (sound : state.Sound) {bytes : List UInt8}
    (free : (0 : UInt8) ∉ bytes) : '\x00' ∉ decodeFrom state bytes := by
  induction bytes generalizing state with
  | nil => cases state <;> simp [decodeFrom, finish, replacement]
  | cons byte rest induction =>
      rw [List.mem_cons, not_or] at free
      rw [decodeFrom, List.mem_append, not_or]
      exact ⟨zero_not_mem_next sound (Ne.symm free.1), induction (sound_next sound byte) free.2⟩

theorem zero_not_mem_decode {bytes : List UInt8} (free : (0 : UInt8) ∉ bytes) :
    '\x00' ∉ (decode bytes).toList := by
  rw [decode, String.toList_ofList]
  exact zero_not_mem_decodeFrom (show State.Sound .start from trivial) free

end Sound

end Utf8
end ElfInspect

import ElfInspect.Display
import ElfInspect.Proofs.Text.Markup
import Mathlib.Logic.Function.Basic
import Mathlib.Data.Nat.Digits.Defs

/-!
# Numerals read back

Whatever its base and the least width to which it is filled up, a numeral can be read back.  So no
two numbers are written alike.
-/

namespace ElfInspect
namespace Numeral

/-- The number that a digit stands for. -/
def digitValue (digit : Char) : Nat :=
  if digit.isDigit then digit.toNat - '0'.toNat else digit.toNat - 'a'.toNat + 10

/-- The number that digits stand for, the most significant one first. -/
def valueOf (base : Nat) (digits : List Char) : Nat :=
  digits.foldl (fun value digit => base * value + digitValue digit) 0

/-- The number that a numeral stands for. -/
def read (base : Nat) (content : List Char) : Int :=
  if content.head? = some '-' then -(valueOf base content.tail : Int) else valueOf base content

/-! ## Digits -/

theorem digitValue_digitChar : ∀ value < 16, digitValue (Nat.digitChar value) = value := by decide

theorem digitChar_ne_sign : ∀ value < 16, Nat.digitChar value ≠ '-' := by decide

theorem zeroFill_zero (digits : List Char) : zeroFill 0 digits = digits := by
  rw [zeroFill, Nat.zero_sub, List.replicate_zero, List.nil_append]

theorem valueOf_zeroFill (base width : Nat) (digits : List Char) :
    valueOf base (zeroFill width digits) = valueOf base digits := by
  have zeros (count : Nat) : valueOf base (List.replicate count '0') = 0 := by
    induction count with
    | zero => rfl
    | succ count induction =>
        rw [valueOf] at induction
        rw [valueOf, List.replicate_succ', List.foldl_append, induction]
        rfl
  rw [zeroFill, valueOf, List.foldl_append, ← valueOf, zeros]
  rfl

section

variable {base : Nat} (base_gt : 1 < base) (base_le : base ≤ 16)
include base_gt base_le

theorem valueOf_toDigits (value : Nat) : valueOf base (Nat.toDigits base value) = value := by
  induction value using Nat.strongRecOn with
  | ind value induction =>
      by_cases one_digit : value < base
      · rw [Nat.toDigits_of_lt_base one_digit]
        simp [valueOf, digitValue_digitChar value (by omega)]
      · have base_le_value := Nat.le_of_not_lt one_digit
        have front_eq := induction (value / base) (Nat.div_lt_self (by omega) base_gt)
        have last_lt := Nat.mod_lt value (Nat.zero_lt_of_lt base_gt)
        rw [valueOf] at front_eq
        rw [Nat.toDigits_of_base_le base_gt base_le_value, valueOf, List.foldl_append, front_eq]
        simp only [List.foldl_cons, List.foldl_nil]
        rw [digitValue_digitChar _ (by omega), Nat.div_add_mod]

/-- Every character of a numeral without its sign is a digit of its base. -/
theorem exists_digit_of_mem {width value : Nat} {digit : Char}
    (member : digit ∈ zeroFill width (Nat.toDigits base value)) :
    ∃ small < base, digit = Nat.digitChar small := by
  rw [zeroFill, List.mem_append] at member
  obtain filled | written := member
  · exact ⟨0, by omega, (List.mem_replicate.mp filled).2⟩
  · induction value using Nat.strongRecOn with
    | ind value induction =>
        by_cases one_digit : value < base
        · rw [Nat.toDigits_of_lt_base one_digit, List.mem_singleton] at written
          exact ⟨value, one_digit, written⟩
        · rw [Nat.toDigits_of_base_le base_gt (Nat.le_of_not_lt one_digit), List.mem_append,
            List.mem_singleton] at written
          obtain front | last := written
          · exact induction _ (Nat.div_lt_self (by omega) base_gt) front
          · exact ⟨_, Nat.mod_lt value (by omega), last⟩

/-! ## Numerals -/

/-- Every character of a numeral is its sign or a digit. -/
theorem sign_or_digit_of_mem {width : Nat} {value : Int} {char : Char}
    (member : char ∈ (signed width (Nat.toDigits base) value).toList) :
    char = '-' ∨ ∃ small < base, char = Nat.digitChar small := by
  rw [signed] at member
  by_cases negative : value < 0
  · rw [if_pos negative, String.toList_ofList, List.mem_cons] at member
    exact member.imp_right (exists_digit_of_mem base_gt base_le)
  · rw [if_neg negative, String.toList_ofList] at member
    exact .inr (exists_digit_of_mem base_gt base_le member)

/-- A numeral has nothing to escape. -/
theorem isPlain_signed (width : Nat) (value : Int) :
    Markup.IsPlain (signed width (Nat.toDigits base) value) := by
  have unmarked : ∀ small < 16, Nat.digitChar small ∉ ['[', '\\'] := by decide
  have absent {char : Char} (marked : char ∈ ['[', '\\']) :
      char ∉ (signed width (Nat.toDigits base) value).toList := by
    intro member
    obtain rfl | ⟨small, small_lt, rfl⟩ := sign_or_digit_of_mem base_gt base_le member
    · exact absurd marked (by decide)
    · exact unmarked small (by omega) marked
  exact ⟨absent (by decide), absent (by decide)⟩

theorem read_signed (width : Nat) (value : Int) :
    read base (signed width (Nat.toDigits base) value).toList = value := by
  rw [signed]
  by_cases negative : value < 0
  · rw [if_pos negative, String.toList_ofList, read, if_pos List.head?_cons, List.tail_cons,
      valueOf_zeroFill, valueOf_toDigits base_gt base_le]
    omega
  · rw [if_neg negative, String.toList_ofList, read, if_neg, valueOf_zeroFill,
      valueOf_toDigits base_gt base_le]
    · omega
    · intro head_eq
      obtain ⟨small, small_lt, small_eq⟩ :=
        exists_digit_of_mem base_gt base_le (List.mem_of_mem_head? head_eq)
      exact digitChar_ne_sign small (by omega) small_eq.symm

theorem signed_injective (width : Nat) :
    Function.Injective (signed width (Nat.toDigits base)) := by
  intro left right same
  rw [← read_signed base_gt base_le width left, same, read_signed base_gt base_le]

end

theorem hex_injective : Function.Injective hex := signed_injective (by decide) (by decide) 0

theorem hexFill_injective (width : Nat) : Function.Injective (hexFill width) :=
  signed_injective (by decide) (by decide) width

theorem toString_eq_signed (value : Int) : toString value = signed 0 (Nat.toDigits 10) value := by
  apply String.toList_inj.mp
  rw [Int.toString_eq_repr, Int.repr_eq_if, signed]
  split
  next nonneg =>
    have magnitude_eq : value.natAbs = value.toNat := by omega
    rw [if_neg (by omega), magnitude_eq, Nat.toList_repr, String.toList_ofList, zeroFill_zero]
  next negative =>
    have magnitude_eq : value.natAbs = (-value).toNat := by omega
    rw [if_pos (by omega), magnitude_eq, String.toList_append, Nat.toList_repr,
      String.toList_ofList, String.toList_ofList, zeroFill_zero, List.singleton_append]

theorem toString_injective : Function.Injective (toString : Int → String) := by
  intro left right same
  rw [toString_eq_signed, toString_eq_signed] at same
  exact signed_injective (by decide) (by decide) 0 same

theorem isPlain_hex (value : Int) : Markup.IsPlain (hex value) :=
  isPlain_signed (by decide) (by decide) 0 value

theorem isPlain_hexFill (width : Nat) (value : Int) : Markup.IsPlain (hexFill width value) :=
  isPlain_signed (by decide) (by decide) width value

theorem isPlain_decimalFill (width : Nat) (value : Int) :
    Markup.IsPlain (decimalFill width value) := isPlain_signed (by decide) (by decide) width value

theorem isPlain_toString (value : Int) : Markup.IsPlain (toString value) := by
  rw [toString_eq_signed]
  exact isPlain_signed (by decide) (by decide) 0 value

theorem isPlain_toString_natCast (value : Nat) : Markup.IsPlain (toString value) :=
  isPlain_toString value

/-- A decimal numeral has neither blanks nor letters. -/
theorem sign_or_digit_of_mem_toString {value : Int} {char : Char}
    (member : char ∈ (toString value).toList) : char = '-' ∨ char.isDigit = true := by
  have decimal : ∀ small < 10, (Nat.digitChar small).isDigit = true := by decide
  rw [toString_eq_signed] at member
  obtain sign | ⟨small, small_lt, rfl⟩ := sign_or_digit_of_mem (by decide) (by decide) member
  · exact .inl sign
  · exact .inr (decimal small small_lt)

/-- A text of so many hexadecimal digits, and of nothing else. -/
def IsHex (count : Nat) (content : String) : Prop :=
  content.length = count ∧ ∀ digit ∈ content.toList, digit ∈ "0123456789abcdef".toList

/-- A number that fits has as many digits as there is room for, and no sign. -/
theorem isHex_hexFill {digits : Nat} {value : Int} (nonneg : 0 ≤ value)
    (fits : value < 16 ^ digits) (filled : 0 < digits) : IsHex digits (hexFill digits value) := by
  have hexadecimal : ∀ small < 16, Nat.digitChar small ∈ "0123456789abcdef".toList := by decide
  have magnitude_lt : value.natAbs < 16 ^ digits := by
    zify
    rwa [abs_of_nonneg nonneg]
  have length_le : (hexDigits value.natAbs).length ≤ digits :=
    (Nat.length_toDigits_le_iff (by decide) filled).mpr magnitude_lt
  rw [IsHex, hexFill, signed, if_neg (by omega), String.length_ofList, String.toList_ofList]
  constructor
  · rw [zeroFill, List.length_append, List.length_replicate]
    omega
  · intro digit member
    obtain ⟨small, small_lt, rfl⟩ := exists_digit_of_mem (by decide) (by decide) member
    exact hexadecimal small small_lt

end Numeral

namespace Display

theorem rightDecimal_injective (width : Nat) : Function.Injective (rightDecimal width) := by
  have stripped (value : Int) :
      (rightDecimal width value).toList.filter (· ≠ ' ') = (toString value).toList := by
    rw [rightDecimal, String.toList_append, String.toList_ofList, Line.blanks, List.filter_append,
      List.filter_replicate_of_neg (by decide), List.nil_append, List.filter_eq_self]
    intro char member
    obtain rfl | digit := Numeral.sign_or_digit_of_mem_toString member
    · rfl
    · exact decide_eq_true fun blank => by rw [blank] at digit; contradiction
  intro left right same
  have lists := stripped right
  rw [← same, stripped left] at lists
  exact Numeral.toString_injective (String.toList_inj.mp lists)

end Display
end ElfInspect

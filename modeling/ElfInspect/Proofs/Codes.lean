import ElfInspect.Proofs.Text.Markup
import ElfInspect.Proofs.Text.Numeral
import Mathlib.Data.Int.Bitwise
import Mathlib.Data.Nat.BitIndices

/-!
# Codes as they are shown

No two codes are shown alike: the names of a kind differ from one another, and none of them looks
like the text of a code without a name.  Flags are shown alike exactly if they agree where they have
letters, and in whether they have other bits.
-/

namespace ElfInspect

/-! ## Names -/

theorem mem_of_lookup {names : List (Int × String)} {code : Int} {name : String}
    (found : names.lookup code = some name) : (code, name) ∈ names := by
  obtain ⟨front, back, names_eq, _⟩ := List.lookup_eq_some_iff.mp found
  rw [names_eq]
  exact List.mem_append_right front List.mem_cons_self

/-- Distinct names, and texts in place of a name that are distinct and no names, tell codes
apart. -/
theorem lookup_getD_injective {names : List (Int × String)} {fallback : Int → String}
    (nodup : (names.map Prod.snd).Nodup) (distinct : Function.Injective fallback)
    (apart : ∀ entry ∈ names, ∀ code, fallback code ≠ entry.2) :
    Function.Injective fun code => (names.lookup code).getD (fallback code) := by
  intro left right same
  simp only at same
  cases left_eq : names.lookup left with
  | none =>
      cases right_eq : names.lookup right with
      | none =>
          rw [left_eq, right_eq] at same
          exact distinct same
      | some name =>
          rw [left_eq, right_eq] at same
          exact absurd same (apart _ (mem_of_lookup right_eq) left)
  | some name =>
      cases right_eq : names.lookup right with
      | none =>
          rw [left_eq, right_eq] at same
          exact absurd same.symm (apart _ (mem_of_lookup left_eq) right)
      | some other =>
          rw [left_eq, right_eq] at same
          have pair_eq := List.inj_on_of_nodup_map nodup (mem_of_lookup left_eq)
            (mem_of_lookup right_eq) same
          exact congrArg Prod.fst pair_eq

namespace CodeKind

theorem names_nodup (kind : CodeKind) : (kind.names.map Prod.snd).Nodup := by
  cases kind <;> simp [names]

/-- No name starts like the text of a code without a name. -/
theorem head?_names (kind : CodeKind) :
    ∀ entry ∈ kind.names, entry.2.toList.head? ≠ some 'u' := by
  cases kind <;> simp [names]

theorem describe_injective (kind : CodeKind) : Function.Injective kind.describe := by
  apply lookup_getD_injective kind.names_nodup
  · intro left right same
    exact Numeral.toString_injective
      ((String.append_right_inj _).mp ((String.append_left_inj _).mp same))
  · intro entry member code same
    have head_ne := head?_names kind entry member
    rw [← same] at head_ne
    simp at head_ne

theorem isPlain_names (kind : CodeKind) : ∀ entry ∈ kind.names, Markup.IsPlain entry.2 := by
  cases kind <;> simp [names, Markup.IsPlain]

/-- The text of a code has nothing to escape. -/
theorem isPlain_describe (kind : CodeKind) (code : Int) : Markup.IsPlain (kind.describe code) := by
  rw [describe]
  cases found : kind.names.lookup code with
  | some name => exact isPlain_names kind _ (mem_of_lookup found)
  | none =>
      rw [Option.getD_none, Markup.isPlain_append, Markup.isPlain_append]
      exact ⟨⟨by simp [Markup.IsPlain], Numeral.isPlain_toString code⟩, by simp [Markup.IsPlain]⟩

end CodeKind

namespace SectionIndex

/-- The text of an index without a name. -/
def numbered (index : Int) : String :=
  if reserved ≤ index then "RSV[0x" ++ Numeral.hexFill 4 index ++ "]" else toString index

theorem text_eq (index : Int) : text index = (names.lookup index).getD (numbered index) := by
  rw [text]
  cases names.lookup index <;> rfl

theorem sign_or_digit_of_mem_numbered {index : Int} (before : index < reserved) {char : Char}
    (member : char ∈ (numbered index).toList) : char = '-' ∨ char.isDigit = true := by
  rw [numbered, if_neg (by omega)] at member
  exact Numeral.sign_or_digit_of_mem_toString member

/-- Only the text of a reserved index has a certain letter. -/
theorem letter_mem_numbered_iff (index : Int) :
    'R' ∈ (numbered index).toList ↔ reserved ≤ index := by
  constructor
  · intro member
    by_cases behind : reserved ≤ index
    · exact behind
    · have numeric := sign_or_digit_of_mem_numbered (by omega) member
      contradiction
  · intro behind
    rw [numbered, if_pos behind]
    simp

theorem numbered_injective : Function.Injective numbered := by
  intro left right same
  have reserved_iff : reserved ≤ left ↔ reserved ≤ right := by
    rw [← letter_mem_numbered_iff, same, letter_mem_numbered_iff]
  by_cases behind : reserved ≤ left
  · rw [numbered, numbered, if_pos behind, if_pos (reserved_iff.mp behind)] at same
    exact Numeral.hexFill_injective 4
      ((String.append_right_inj _).mp ((String.append_left_inj _).mp same))
  · rw [numbered, numbered, if_neg behind, if_neg (mt reserved_iff.mpr behind)] at same
    exact Numeral.toString_injective same

theorem text_injective : Function.Injective text := by
  have names_lettered : ∀ entry ∈ names, 'R' ∉ entry.2.toList ∧
      ∃ char ∈ entry.2.toList, ¬ (char = '-' ∨ char.isDigit = true) := by
    simp [names]
  rw [funext text_eq]
  apply lookup_getD_injective (by decide) numbered_injective
  intro entry member index same
  obtain ⟨no_letter, char, char_mem, not_numeric⟩ := names_lettered entry member
  rw [← same] at no_letter char_mem
  by_cases behind : reserved ≤ index
  · exact no_letter ((letter_mem_numbered_iff index).mpr behind)
  · exact not_numeric (sign_or_digit_of_mem_numbered (by omega) char_mem)

end SectionIndex

/-! ## Flags -/

theorem bitAt_natCast (value place : Nat) : bitAt value place = value.testBit place := by
  rw [bitAt, Int.shiftRight_eq_div_pow, Nat.testBit_eq_decide_div_mod_eq]
  exact decide_eq_decide.mpr (by norm_cast)

theorem bitAt_eq_testBit (value : Int) (place : Nat) : bitAt value place = value.testBit place := by
  cases value with
  | ofNat value => exact bitAt_natCast value place
  | negSucc value =>
      have shifted : Int.negSucc value >>> place = Int.negSucc (value >>> place) := rfl
      have opposite : Int.negSucc (value >>> place) % 2 = 1 ↔ ¬ value >>> place % 2 = 1 := by omega
      rw [bitAt, shifted, Int.testBit, Nat.testBit_eq_decide_div_mod_eq,
        ← Nat.shiftRight_eq_div_pow, ← decide_not]
      exact decide_eq_decide.mpr opposite

/-- Far enough to the left every bit of a negative number is set. -/
theorem bitAt_of_neg {value : Int} (negative : value < 0) {place : Nat}
    (far : value.natAbs ≤ place) : bitAt value place = true := by
  have place_lt : place < 2 ^ place := Nat.lt_two_pow_self
  rw [bitAt, Int.shiftRight_eq_div_pow]
  generalize 2 ^ place = power at place_lt ⊢
  have quotient_eq : value / power = -1 ∧ value % power = value + power :=
    (Int.ediv_emod_unique (by omega)).mpr (by omega)
  rw [quotient_eq.1]
  rfl

namespace SegmentFlags

/-- Flags agree in the permissions. -/
def Agree (left right : Int) : Prop := ∀ place ∈ [0, 1, 2], left.testBit place = right.testBit place

theorem text_eq_iff (left right : Int) : text left = text right ↔ Agree left right := by
  have cell_iff {letter : Char} (letter_ne : letter ≠ ' ') (first second : Bool) :
      (if first then letter else ' ') = (if second then letter else ' ') ↔ first = second := by
    cases first <;> cases second <;> simp [letter_ne, letter_ne.symm]
  rw [text, text, String.ofList_inj, letters, Agree]
  simp only [← bitAt_eq_testBit, List.map_cons, List.map_nil, List.cons.injEq, and_true,
    List.forall_mem_cons, List.not_mem_nil, false_imp_iff, implies_true]
  rw [cell_iff (by decide), cell_iff (by decide), cell_iff (by decide)]
  exact ⟨fun ⟨two, one, zero⟩ => ⟨zero, one, two⟩, fun ⟨zero, one, two⟩ => ⟨two, one, zero⟩⟩

end SegmentFlags

namespace SectionFlags

/-- The places of the known flags. -/
def places : List Nat := [0, 1, 2, 4, 5, 6, 7, 8, 9, 10, 11, 31]

/-- Flags agree in the known places, and in whether they are set anywhere else. -/
def Agree (left right : Int) : Prop :=
  (∀ place ∈ places, left.testBit place = right.testBit place) ∧
    ((∃ place ∉ places, left.testBit place = true) ↔ ∃ place ∉ places, right.testBit place = true)

/-- Each known flag has a letter, and no other has one. -/
theorem places_eq : places = letters.map Prod.fst := rfl

theorem known_eq_sum (flags : Int) :
    known flags = (((places.filter (bitAt flags)).map (2 ^ ·)).sum : Nat) := by
  rw [known, places_eq]
  induction letters with
  | nil => rfl
  | cons letter rest induction =>
      rw [List.foldr_cons, induction, List.map_cons, List.filter_cons]
      cases bitAt flags letter.1 with
      | false => simp
      | true => simp [Nat.one_shiftLeft]

/-- Flags are no more than their known part exactly if they are set at known places only. -/
theorem eq_known_iff (flags : Int) :
    flags = known flags ↔ ∀ place, bitAt flags place = true → place ∈ places := by
  by_cases negative : flags < 0
  · have places_lt : ∀ place ∈ places, place < 32 := by decide
    have far_set : bitAt flags (flags.natAbs + 32) = true := bitAt_of_neg negative (by omega)
    constructor
    · intro same
      rw [same, known_eq_sum] at negative
      omega
    · intro only_known
      have far_lt := places_lt _ (only_known _ far_set)
      omega
  · obtain ⟨value, rfl⟩ := Int.eq_ofNat_of_zero_le (Int.not_lt.mp negative)
    have set_iff (place : Nat) : bitAt value place = true ↔ place ∈ value.bitIndices := by
      rw [bitAt_natCast, Nat.mem_bitIndices]
    have sorted : (places.filter (bitAt value)).SortedLT := by
      have all_sorted : places.Pairwise (· < ·) := by decide
      exact (all_sorted.sublist List.filter_sublist).sortedLT
    rw [known_eq_sum, Int.natCast_inj]
    constructor
    · intro same place set
      have indices_eq := Nat.bitIndices_sum_map_two_pow sorted
      rw [← same] at indices_eq
      rw [set_iff, indices_eq] at set
      exact List.mem_of_mem_filter set
    · intro only_known
      have indices_eq : value.bitIndices = places.filter (bitAt value) := by
        refine Nat.bitIndices_sorted.eq_of_mem_iff sorted fun place => ?_
        rw [List.mem_filter, ← set_iff]
        exact ⟨fun set => ⟨only_known place set, set⟩, And.right⟩
      rw [← indices_eq, Nat.sum_map_two_pow_bitIndices]

theorem ne_known_iff (flags : Int) :
    flags ≠ known flags ↔ ∃ place ∉ places, bitAt flags place = true := by
  rw [ne_eq, eq_known_iff, not_forall]
  exact exists_congr fun place => by rw [Classical.not_imp, and_comm]

theorem mem_text_iff (flags : Int) (char : Char) :
    char ∈ (text flags).toList ↔
      (∃ letter ∈ letters, bitAt flags letter.1 = true ∧ letter.2 = char) ∨
        flags ≠ known flags ∧ char = 'x' := by
  rw [text, String.toList_ofList, List.mem_append]
  apply or_congr
  · simp only [List.mem_map, List.mem_filter, and_assoc]
  · by_cases same : flags = known flags
    · rw [if_pos same, ne_eq, eq_true same]
      simp
    · rw [if_neg same, ne_eq, eq_false same]
      simp

/-- No place has the mark of unknown flags as its letter. -/
theorem letter_ne_x : ∀ letter ∈ letters, letter.2 ≠ 'x' := by decide

/-- The letter of a place is written exactly if the place is set. -/
theorem letter_mem_text_iff (flags : Int) {letter : Nat × Char} (member : letter ∈ letters) :
    letter.2 ∈ (text flags).toList ↔ bitAt flags letter.1 = true := by
  have distinct : (letters.map Prod.snd).Nodup := by decide
  rw [mem_text_iff]
  constructor
  · rintro (⟨other, other_mem, set, same⟩ | ⟨_, is_x⟩)
    · rwa [← List.inj_on_of_nodup_map distinct other_mem member same]
    · exact absurd is_x (letter_ne_x letter member)
  · intro set
    exact .inl ⟨letter, member, set, rfl⟩

/-- The mark of unknown flags is written exactly if an unknown place is set. -/
theorem x_mem_text_iff (flags : Int) :
    'x' ∈ (text flags).toList ↔ ∃ place ∉ places, bitAt flags place = true := by
  rw [← ne_known_iff, mem_text_iff]
  constructor
  · rintro (⟨letter, letter_mem, _, is_x⟩ | ⟨more, _⟩)
    · exact absurd is_x (letter_ne_x letter letter_mem)
    · exact more
  · intro more
    exact .inr ⟨more, rfl⟩

theorem text_eq_iff (left right : Int) : text left = text right ↔ Agree left right := by
  simp only [Agree, ← bitAt_eq_testBit]
  constructor
  · intro same
    constructor
    · intro place member
      rw [places_eq] at member
      obtain ⟨letter, letter_mem, rfl⟩ := List.mem_map.mp member
      rw [Bool.eq_iff_iff, ← letter_mem_text_iff left letter_mem, same,
        letter_mem_text_iff right letter_mem]
    · rw [← x_mem_text_iff, same, x_mem_text_iff]
  · rintro ⟨known_same, unknown_same⟩
    have letters_eq : letters.filter (fun letter => bitAt left letter.1) =
        letters.filter fun letter => bitAt right letter.1 := by
      refine List.filter_congr fun letter member => known_same _ ?_
      rw [places_eq]
      exact List.mem_map_of_mem member
    have mark_iff : left = known left ↔ right = known right := by
      rw [← not_iff_not, ← ne_eq, ne_known_iff, unknown_same, ← ne_known_iff]
    simp only [text, letters_eq, mark_iff]

end SectionFlags
end ElfInspect

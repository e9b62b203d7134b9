import ElfInspect.Proofs.StringTable
import Mathlib.Tactic.SplitIfs

/-!
# Texts part by part

A byte sequence falls into characters and ill-formed parts in one way only, and its text has one
character for each part.  Which bytes can follow a beginning is said of the encodings of characters
alone; that the reading of a text agrees with it is an induction over the bytes.
-/

namespace ElfInspect
namespace Utf8

/-- The bytes are the encoding of some text. -/
def WellFormed (bytes : List UInt8) : Prop := bytes.toByteArray.IsValidUTF8

/-- The byte can only go on with a character. -/
def IsTail (byte : UInt8) : Prop := 0x80 ≤ byte ∧ byte ≤ 0xBF

instance (byte : UInt8) : Decidable (IsTail byte) := inferInstanceAs (Decidable (_ ∧ _))

/-! ## Parts -/

/-- A character begins with the bytes, or consists of them. -/
def Begins (bytes : List UInt8) : Prop := ∃ char, bytes <+: String.utf8EncodeChar char

/-- The part that is replaced where no character stands: the longest one with which a character
begins, or else a single byte. -/
structure MaximalSubpart (part rest : List UInt8) : Prop where
  nonempty : part ≠ []
  no_character : ∀ char, ¬ String.utf8EncodeChar char <+: part ++ rest
  begins : Begins part ∨ part.length = 1
  longest : ∀ other, other <+: part ++ rest → Begins other → other.length ≤ part.length

/-- A part of a byte sequence. -/
inductive Part where
  /-- The encoding of a character. -/
  | character (char : Char)
  /-- Bytes that are no character. -/
  | illFormed (bytes : List UInt8)

namespace Part

/-- The bytes of a part. -/
def bytes : Part → List UInt8
  | character char => String.utf8EncodeChar char
  | illFormed bytes => bytes

/-- The character that stands for a part in a text. -/
def shown : Part → Char
  | character char => char
  | illFormed _ => replacement

/-- A part can stand in front of other bytes. -/
def Precedes : Part → List UInt8 → Prop
  | character _, _ => True
  | illFormed bytes, rest => MaximalSubpart bytes rest

/-- The bytes of several parts. -/
def join (parts : List Part) : List UInt8 := parts.flatMap bytes

/-- Parts into which their bytes fall. -/
def IsSplit : List Part → Prop
  | [] => True
  | part :: rest => part.Precedes (join rest) ∧ IsSplit rest

end Part

/-! ## One split only -/

section Unique

open ElfInspect.Utf8.Part

variable {bytes rest otherRest : List UInt8} {part other : Part}

/-- No character begins with another one. -/
theorem utf8EncodeChar_unique {char other : Char}
    (front : String.utf8EncodeChar char <+: String.utf8EncodeChar other) : char = other := by
  obtain ⟨rest, other_eq⟩ := front
  have read := decodeFrom_utf8EncodeChar char rest
  have other_read := decodeFrom_utf8EncodeChar other []
  rw [other_eq] at read
  rw [List.append_nil, read] at other_read
  exact (List.cons.inj other_read).1

theorem bytes_ne_nil (precedes : part.Precedes rest) : part.bytes ≠ [] := by
  cases part with
  | character char =>
      rw [bytes, ← List.length_pos_iff, String.length_utf8EncodeChar]
      exact char.utf8Size_pos
  | illFormed bytes => exact precedes.nonempty

theorem MaximalSubpart.length_le {part other : List UInt8} (first : MaximalSubpart part rest)
    (second : MaximalSubpart other otherRest) (same : part ++ rest = other ++ otherRest) :
    part.length ≤ other.length := by
  obtain begins | single := first.begins
  · exact second.longest part (same ▸ List.prefix_append part rest) begins
  · rw [single]
    exact List.length_pos_iff.mpr second.nonempty

/-- The first part of some bytes is determined by them. -/
theorem eq_of_precedes (first : part.Precedes rest) (second : other.Precedes otherRest)
    (same : part.bytes ++ rest = other.bytes ++ otherRest) : part = other := by
  have part_front : part.bytes <+: part.bytes ++ rest := List.prefix_append _ _
  have other_front : other.bytes <+: part.bytes ++ rest := same ▸ List.prefix_append _ _
  cases part with
  | character char =>
      cases other with
      | character otherChar =>
          obtain shorter | longer := List.prefix_or_prefix_of_prefix part_front other_front
          · rw [utf8EncodeChar_unique shorter]
          · rw [utf8EncodeChar_unique longer]
      | illFormed bytes => exact absurd (same ▸ part_front) (second.no_character char)
  | illFormed bytes =>
      cases other with
      | character otherChar => exact absurd other_front (first.no_character otherChar)
      | illFormed otherBytes =>
          have length_eq := Nat.le_antisymm (first.length_le second same)
            (second.length_le first same.symm)
          obtain rfl : bytes = otherBytes := (List.append_inj same length_eq).1
          rfl

theorem eq_of_isSplit {parts others : List Part} (split : IsSplit parts)
    (other_split : IsSplit others) (same : join parts = join others) : parts = others := by
  induction parts generalizing others with
  | nil =>
      cases others with
      | nil => rfl
      | cons other others =>
          have other_empty := (List.append_eq_nil_iff.mp same.symm).1
          exact absurd other_empty (bytes_ne_nil other_split.1)
  | cons part parts induction =>
      cases others with
      | nil =>
          have part_empty := (List.append_eq_nil_iff.mp same).1
          exact absurd part_empty (bytes_ne_nil split.1)
      | cons other others =>
          obtain rfl := eq_of_precedes split.1 other_split.1 same
          rw [induction split.2 other_split.2 (List.append_cancel_left same)]

theorem length_le_join {parts : List Part} (split : IsSplit parts) :
    parts.length ≤ (join parts).length := by
  induction parts with
  | nil => exact Nat.le_refl 0
  | cons part parts induction =>
      have part_pos := List.length_pos_iff.mpr (bytes_ne_nil split.1)
      have parts_le := induction split.2
      rw [join, List.flatMap_cons, List.length_append, ← join, List.length_cons]
      omega

end Unique

/-! ## Beginnings -/

/-- The bytes complete a character of which `owed + 1` bytes are missing, the first of them between
`low` and `high`, and which has begun with the bits of `code`. -/
def Completes (char : Char) :
    (owed : Nat) → (low high : UInt8) → (code : Nat) → List UInt8 → Prop
  | _, _, _, _, [] => False
  | 0, low, high, code, byte :: rest =>
      (low ≤ byte ∧ byte ≤ high) ∧ char.toNat = code * 64 + (byte.toNat - 0x80) ∧ rest = []
  | owed + 1, low, high, code, byte :: rest =>
      (low ≤ byte ∧ byte ≤ high) ∧
        Completes char owed 0x80 0xBF (code * 64 + (byte.toNat - 0x80)) rest

section Leads

variable {char : Char} {byte low high : UInt8} {code : Nat} {tail : List UInt8}

theorem ofNat_eq_iff {bits : Nat} : UInt8.ofNat bits = byte ↔ bits % 256 = byte.toNat := by
  rw [← UInt8.toNat_inj, UInt8.toNat_ofNat']

-- Each of these three is a comparison of two lists byte by byte, for every number of bytes.

theorem utf8EncodeChar_two_iff (byte_eq : byte.toNat = code + 0xC0) (two_le : 2 ≤ code)
    (code_lt : code < 32) :
    String.utf8EncodeChar char = byte :: tail ↔ Completes char 0 0x80 0xBF code tail := by
  have valid : char.toNat < 0xD800 ∨ 0xDFFF < char.toNat ∧ char.toNat < 0x110000 := char.valid
  have code_eq : char.val.toNat = char.toNat := rfl
  simp only [String.utf8EncodeChar, code_eq]
  rcases tail with _ | ⟨b, _ | ⟨c, _ | ⟨d, rest⟩⟩⟩
  all_goals
    split_ifs <;>
      simp only [Completes, List.cons.injEq, ofNat_eq_iff, UInt8.le_iff_toNat_le,
        UInt8.reduceToNat, and_true, and_false, reduceCtorEq, iff_false, false_iff] <;>
      omega

theorem utf8EncodeChar_three_iff (byte_eq : byte.toNat = code + 0xE0) (code_lt : code < 16)
    (low_eq : low.toNat = if code = 0 then 0xA0 else 0x80)
    (high_eq : high.toNat = if code = 13 then 0x9F else 0xBF) :
    String.utf8EncodeChar char = byte :: tail ↔ Completes char 1 low high code tail := by
  have valid : char.toNat < 0xD800 ∨ 0xDFFF < char.toNat ∧ char.toNat < 0x110000 := char.valid
  have code_eq : char.val.toNat = char.toNat := rfl
  simp only [String.utf8EncodeChar, code_eq]
  have low_or : code = 0 ∧ low.toNat = 0xA0 ∨ code ≠ 0 ∧ low.toNat = 0x80 := by
    split at low_eq <;> omega
  have high_or : code = 13 ∧ high.toNat = 0x9F ∨ code ≠ 13 ∧ high.toNat = 0xBF := by
    split at high_eq <;> omega
  rcases tail with _ | ⟨b, _ | ⟨c, _ | ⟨d, rest⟩⟩⟩
  all_goals
    split_ifs <;>
      simp only [Completes, List.cons.injEq, ofNat_eq_iff, UInt8.le_iff_toNat_le,
        UInt8.reduceToNat, and_true, and_false, reduceCtorEq, iff_false, false_iff, not_and] <;>
      omega

theorem utf8EncodeChar_four_iff (byte_eq : byte.toNat = code + 0xF0) (code_lt : code < 5)
    (low_eq : low.toNat = if code = 0 then 0x90 else 0x80)
    (high_eq : high.toNat = if code = 4 then 0x8F else 0xBF) :
    String.utf8EncodeChar char = byte :: tail ↔ Completes char 2 low high code tail := by
  have valid : char.toNat < 0xD800 ∨ 0xDFFF < char.toNat ∧ char.toNat < 0x110000 := char.valid
  have code_eq : char.val.toNat = char.toNat := rfl
  simp only [String.utf8EncodeChar, code_eq]
  have low_or : code = 0 ∧ low.toNat = 0x90 ∨ code ≠ 0 ∧ low.toNat = 0x80 := by
    split at low_eq <;> omega
  have high_or : code = 4 ∧ high.toNat = 0x8F ∨ code ≠ 4 ∧ high.toNat = 0xBF := by
    split at high_eq <;> omega
  rcases tail with _ | ⟨b, _ | ⟨c, _ | ⟨d, _ | ⟨e, rest⟩⟩⟩⟩
  all_goals
    split_ifs <;>
      simp only [Completes, List.cons.injEq, ofNat_eq_iff, UInt8.le_iff_toNat_le,
        UInt8.reduceToNat, and_true, and_false, reduceCtorEq, iff_false, false_iff, not_and] <;>
      omega

/-- No character begins with a byte that can only go on with one, would make a long form or a code
that is too large. -/
theorem utf8EncodeChar_ne_cons (ascii_lt : 0x7F < byte.toNat)
    (no_lead : byte.toNat < 0xC2 ∨ 0xF4 < byte.toNat) :
    String.utf8EncodeChar char ≠ byte :: tail := by
  have valid : char.toNat < 0xD800 ∨ 0xDFFF < char.toNat ∧ char.toNat < 0x110000 := char.valid
  have code_eq : char.val.toNat = char.toNat := rfl
  simp only [String.utf8EncodeChar, code_eq]
  split_ifs <;> simp only [ne_eq, List.cons.injEq, ofNat_eq_iff, not_and] <;> omega

end Leads

/-- Some bytes with which a character begins, and what it needs to be completed. -/
structure Begun (seen : List UInt8) (owed : Nat) (low high : UInt8) (code : Nat) : Prop where
  sound : State.Sound (.within owed low high code)
  low_le : low ≤ high
  nonempty : seen ≠ []
  completes_iff : ∀ char tail,
    String.utf8EncodeChar char = seen ++ tail ↔ Completes char owed low high code tail

/-- What the first byte of some bytes is. -/
inductive Lead (byte : UInt8) : Prop where
  /-- A character. -/
  | ascii (char : Char) (read : first byte = ([char], .start))
      (bytes_eq : String.utf8EncodeChar char = [byte])
  /-- The beginning of a character. -/
  | begun (owed : Nat) (low high : UInt8) (code : Nat)
      (read : first byte = ([], .within owed low high code))
      (begun : Begun [byte] owed low high code)
  /-- Neither. -/
  | stray (read : first byte = ([replacement], .start))
      (none_begins : ∀ char tail, String.utf8EncodeChar char ≠ byte :: tail)

section Begun

variable {seen rest other : List UInt8} {owed code : Nat} {low high byte : UInt8} {char : Char}

theorem lead_of_within (read : first byte = ([], .within owed low high code)) (low_le : low ≤ high)
    (completes_iff : ∀ char tail,
      String.utf8EncodeChar char = byte :: tail ↔ Completes char owed low high code tail) :
    Lead byte := by
  have sound := sound_first byte
  rw [read] at sound
  exact .begun owed low high code read
    { sound := sound
      low_le := low_le
      nonempty := List.cons_ne_nil byte []
      completes_iff := completes_iff }

/-- The first byte of a character fixes how many bytes it has. -/
theorem lead (byte : UInt8) : Lead byte := by
  have byte_lt := byte.toNat_lt
  by_cases ascii : byte.toNat < 0x80
  · have read := first_one byte.toNat ascii
    rw [UInt8.ofNat_toNat] at read
    have valid : byte.toNat.isValidChar := by
      rw [Nat.isValidChar]
      omega
    have code_eq : (Char.ofNat byte.toNat).val.toNat = byte.toNat := by
      rw [Char.ofNat, dif_pos valid]
      rfl
    refine .ascii _ read ?_
    simp only [String.utf8EncodeChar, code_eq, if_pos (show byte.toNat ≤ 127 by omega),
      UInt8.ofNat_toNat]
  by_cases stray : byte.toNat < 0xC2 ∨ 0xF4 < byte.toNat
  · refine .stray ?_ fun char tail => utf8EncodeChar_ne_cons (by omega) stray
    unfold first
    simp only [UInt8.le_iff_toNat_le, ← UInt8.toNat_inj, UInt8.reduceToNat]
    rw [if_neg (by omega), if_neg (by omega), if_neg (by omega), if_neg (by omega),
      if_neg (by omega), if_neg (by omega), if_neg (by omega), if_neg (by omega)]
  by_cases two : byte.toNat < 0xE0
  · have read := first_two (byte.toNat - 0xC0) (by omega) (by omega)
    rw [Nat.sub_add_cancel (by omega), UInt8.ofNat_toNat] at read
    exact lead_of_within read (by decide) fun char tail =>
      utf8EncodeChar_two_iff (by omega) (by omega) (by omega)
  by_cases three : byte.toNat < 0xF0
  · have read := first_three (byte.toNat - 0xE0) (by omega)
    rw [Nat.sub_add_cancel (by omega), UInt8.ofNat_toNat] at read
    exact lead_of_within read (by split <;> split <;> simp; omega) fun char tail =>
      utf8EncodeChar_three_iff (by omega) (by omega) (by split <;> rfl) (by split <;> rfl)
  · have read := first_four (byte.toNat - 0xF0) (by omega)
    rw [Nat.sub_add_cancel (by omega), UInt8.ofNat_toNat] at read
    exact lead_of_within read (by split <;> split <;> simp; omega) fun char tail =>
      utf8EncodeChar_four_iff (by omega) (by omega) (by split <;> rfl) (by split <;> rfl)

theorem Begun.more (begun : Begun seen (owed + 1) low high code)
    (inside : low ≤ byte ∧ byte ≤ high) :
    Begun (seen ++ [byte]) owed 0x80 0xBF (code * 64 + (byte.toNat - 0x80)) where
  sound := sound_more begun.sound (UInt8.le_iff_toNat_le.mp inside.1)
    (UInt8.le_iff_toNat_le.mp inside.2)
  low_le := by decide
  nonempty := by simp
  completes_iff := by
    intro char tail
    rw [List.append_assoc, List.singleton_append, begun.completes_iff, Completes]
    exact and_iff_right inside

/-- The byte that completes a character. -/
theorem Begun.last (begun : Begun seen 0 low high code) (inside : low ≤ byte ∧ byte ≤ high) :
    String.utf8EncodeChar (Char.ofNat (code * 64 + (byte.toNat - 0x80))) = seen ++ [byte] := by
  obtain ⟨low_tail, high_tail, pos, valid⟩ := begun.sound
  have low_le := UInt8.le_iff_toNat_le.mp inside.1
  have le_high := UInt8.le_iff_toNat_le.mp inside.2
  simp only [openCodes] at pos valid
  have code_valid : (code * 64 + (byte.toNat - 0x80)).isValidChar := by
    rw [Nat.isValidChar]
    omega
  rw [begun.completes_iff, Completes]
  refine ⟨inside, ?_, rfl⟩
  rw [Char.ofNat, dif_pos code_valid]
  rfl

/-- A character that has begun can be completed. -/
theorem Begun.begins (begun : Begun seen owed low high code) : Begins seen := by
  induction owed generalizing seen low high code with
  | zero =>
      have last := begun.last ⟨UInt8.le_refl low, begun.low_le⟩
      exact ⟨_, last ▸ List.prefix_append seen _⟩
  | succ owed induction =>
      obtain ⟨char, front⟩ := induction (begun.more ⟨UInt8.le_refl low, begun.low_le⟩)
      exact ⟨char, (List.prefix_append seen _).trans front⟩

/-- Bytes that do not go on with a character that has begun add nothing to it. -/
theorem Begun.longest (begun : Begun seen owed low high code)
    (stops : ∀ byte ∈ rest.head?, ¬ (low ≤ byte ∧ byte ≤ high)) (front : other <+: seen ++ rest)
    (begins : Begins other) : other.length ≤ seen.length := by
  obtain ⟨char, other_front⟩ := begins
  refine Nat.le_of_not_lt fun longer => ?_
  have seen_front : seen <+: other :=
    List.prefix_of_prefix_length_le (List.prefix_append seen rest) front (by omega)
  obtain ⟨more, rfl⟩ := seen_front
  obtain ⟨tail, char_eq⟩ := other_front
  rw [List.append_assoc, eq_comm, begun.completes_iff] at char_eq
  cases more with
  | nil => simp at longer
  | cons byte more =>
      have inside : low ≤ byte ∧ byte ≤ high := by
        cases owed <;> exact char_eq.1
      obtain ⟨after, rest_eq⟩ := (List.prefix_append_right_inj seen).mp front
      exact stops byte (by rw [← rest_eq]; rfl) inside

theorem Begun.maximalSubpart (begun : Begun seen owed low high code)
    (stops : ∀ byte ∈ rest.head?, ¬ (low ≤ byte ∧ byte ≤ high)) : MaximalSubpart seen rest where
  nonempty := begun.nonempty
  no_character := by
    intro char front
    have short := begun.longest stops front ⟨char, List.prefix_refl _⟩
    have char_front : String.utf8EncodeChar char <+: seen :=
      List.prefix_of_prefix_length_le front (List.prefix_append seen rest) short
    obtain ⟨other, seen_front⟩ := begun.begins
    obtain rfl := utf8EncodeChar_unique (char_front.trans seen_front)
    have char_eq := char_front.eq_of_length_le seen_front.length_le
    rw [← List.append_nil seen, begun.completes_iff] at char_eq
    cases owed <;> exact char_eq
  begins := .inl begun.begins
  longest := fun _ front begins => begun.longest stops front begins

end Begun

/-! ## The parts of a text -/

section Decode

open ElfInspect.Utf8.Part

variable {seen bytes rest : List UInt8} {state : State}

/-- The bytes seen since the last part ended have brought the reading of a text into a state. -/
def Reaches (seen : List UInt8) : State → Prop
  | .start => seen = []
  | .within owed low high code => Begun seen owed low high code

/-- The text read from a state has the parts of the bytes seen and of those that remain. -/
def ReadsParts (seen : List UInt8) (state : State) (bytes : List UInt8) : Prop :=
  ∃ parts, IsSplit parts ∧ join parts = seen ++ bytes ∧
    decodeFrom state bytes = parts.map shown

theorem ReadsParts.cons (reads : ReadsParts [] .start rest) (part : Part)
    (precedes : part.Precedes rest) (bytes_eq : part.bytes ++ rest = seen ++ bytes)
    (read : decodeFrom state bytes = part.shown :: decodeFrom .start rest) :
    ReadsParts seen state bytes := by
  obtain ⟨parts, split, join_eq, text_eq⟩ := reads
  rw [List.nil_append] at join_eq
  refine ⟨part :: parts, ⟨join_eq ▸ precedes, split⟩, ?_, ?_⟩
  · rw [join, List.flatMap_cons, ← join, join_eq, bytes_eq]
  · rw [read, text_eq, List.map_cons]

/-- Between characters, the next byte begins a part. -/
theorem readsParts_first (byte : UInt8)
    (later : ∀ {seen state}, Reaches seen state → ReadsParts seen state rest) :
    ReadsParts [] .start (byte :: rest) := by
  have start := later (show Reaches [] .start from rfl)
  cases lead byte with
  | ascii char read bytes_eq =>
      refine start.cons (.character char) trivial ?_ (decodeFrom_first read)
      rw [bytes, bytes_eq]
      rfl
  | begun owed low high code read begun =>
      have more : Reaches [byte] (.within owed low high code) := begun
      obtain ⟨parts, split, join_eq, text_eq⟩ := later more
      refine ⟨parts, split, join_eq, ?_⟩
      rw [decodeFrom_first read, text_eq, List.nil_append]
  | stray read none_begins =>
      refine start.cons (.illFormed [byte]) ?_ rfl (decodeFrom_first read)
      have short : ∀ other, other <+: byte :: rest → Begins other → other = [] := by
        rintro other front ⟨char, tail, char_eq⟩
        cases other with
        | nil => rfl
        | cons first other =>
            obtain ⟨rfl, _⟩ := List.cons_prefix_cons.mp front
            exact absurd char_eq.symm (none_begins char _)
      exact
        { nonempty := List.cons_ne_nil byte []
          no_character := fun char front => by
            have empty := short _ front ⟨char, List.prefix_refl _⟩
            exact bytes_ne_nil (show (Part.character char).Precedes [] from trivial) empty
          begins := .inr rfl
          longest := fun other front begins => by simp [short other front begins] }

theorem readsParts (reaches : Reaches seen state) (bytes : List UInt8) :
    ReadsParts seen state bytes := by
  induction bytes generalizing seen state with
  | nil =>
      cases state with
      | start =>
          obtain rfl : seen = [] := reaches
          exact ⟨[], trivial, rfl, rfl⟩
      | within owed low high code =>
          have begun : Begun seen owed low high code := reaches
          have maximal : MaximalSubpart seen [] := begun.maximalSubpart (by simp)
          exact ⟨[.illFormed seen], ⟨maximal, trivial⟩, rfl, rfl⟩
  | cons byte rest induction =>
      have start := induction (show Reaches [] .start from rfl)
      cases state with
      | start =>
          obtain rfl : seen = [] := reaches
          exact readsParts_first byte fun reaches => induction reaches
      | within owed low high code =>
          have begun : Begun seen owed low high code := reaches
          by_cases inside : low ≤ byte ∧ byte ≤ high
          · cases owed with
            | zero =>
                refine start.cons
                  (.character (Char.ofNat (code * 64 + (byte.toNat - 0x80)))) trivial ?_
                  (decodeFrom_cons (next_last inside))
                rw [Part.bytes, begun.last inside, List.append_assoc, List.singleton_append]
            | succ owed =>
                have more : Reaches (seen ++ [byte])
                    (.within owed 0x80 0xBF (code * 64 + (byte.toNat - 0x80))) := begun.more inside
                obtain ⟨parts, split, join_eq, text_eq⟩ := induction more
                refine ⟨parts, split, ?_, ?_⟩
                · rw [join_eq, List.append_assoc, List.singleton_append]
                · rw [decodeFrom_cons (next_more inside), text_eq, List.nil_append]
          · have first := readsParts_first byte fun reaches => induction reaches
            refine first.cons (.illFormed seen) ?_ rfl ?_
            · apply begun.maximalSubpart
              rintro other ⟨⟩
              exact inside
            · rw [decodeFrom_cons (next_outside inside), List.cons_append]
              rfl

theorem exists_parts (bytes : List UInt8) :
    ∃ parts, IsSplit parts ∧ join parts = bytes ∧
      decode bytes = String.ofList (parts.map shown) := by
  obtain ⟨parts, split, join_eq, text_eq⟩ := readsParts (show Reaches [] .start from rfl) bytes
  exact ⟨parts, split, join_eq, congrArg String.ofList text_eq⟩

theorem length_decode_le (bytes : List UInt8) : (decode bytes).length ≤ bytes.length := by
  obtain ⟨parts, split, rfl, text_eq⟩ := exists_parts bytes
  rw [text_eq, String.length_ofList, List.length_map]
  exact length_le_join split

end Decode

/-! ## Texts in a row -/

section Append

variable {front back : List UInt8} {state : State}

theorem wellFormed_iff {bytes : List UInt8} : WellFormed bytes ↔ ∃ text, encode text = bytes := by
  constructor
  · rintro ⟨chars, bytes_eq⟩
    refine ⟨String.ofList chars, ?_⟩
    rw [encode_ofList]
    have data_eq := congrArg (fun array : ByteArray => array.data.toList) bytes_eq
    simpa [List.utf8Encode, List.data_toByteArray] using data_eq.symm
  · rintro ⟨text, rfl⟩
    rw [encode_eq]
    exact ⟨text.toList, rfl⟩

theorem encode_decode_iff {bytes : List UInt8} :
    encode (decode bytes) = bytes ↔ WellFormed bytes := by
  rw [wellFormed_iff]
  constructor
  · exact fun same => ⟨_, same⟩
  · rintro ⟨text, rfl⟩
    rw [decode_encode]

/-- A byte that cannot go on with a character ends what has begun. -/
theorem decodeFrom_of_not_tail (sound : state.Sound) (breaks : ∀ byte ∈ back.head?, ¬ IsTail byte) :
    decodeFrom state back = finish state ++ decodeFrom .start back := by
  cases state with
  | start => rfl
  | within owed low high code =>
      cases back with
      | nil => rfl
      | cons byte rest =>
          have outside : ¬ (low ≤ byte ∧ byte ≤ high) := by
            rintro ⟨low_le, le_high⟩
            apply breaks byte rfl
            rw [IsTail, UInt8.le_iff_toNat_le, UInt8.le_iff_toNat_le]
            rw [UInt8.le_iff_toNat_le] at low_le le_high
            obtain ⟨tail_le, le_tail, _⟩ := sound
            exact ⟨Nat.le_trans tail_le low_le, Nat.le_trans le_high le_tail⟩
          rw [decodeFrom_cons (next_outside outside)]
          rfl

theorem decodeFrom_append (sound : state.Sound) (breaks : ∀ byte ∈ back.head?, ¬ IsTail byte) :
    decodeFrom state (front ++ back) = decodeFrom state front ++ decodeFrom .start back := by
  induction front generalizing state with
  | nil => exact decodeFrom_of_not_tail sound breaks
  | cons byte rest induction =>
      rw [List.cons_append, decodeFrom, decodeFrom, induction (sound_next sound byte),
        List.append_assoc]

theorem decode_append (whole : WellFormed front ∨ ∀ byte ∈ back.head?, ¬ IsTail byte) :
    decode (front ++ back) = decode front ++ decode back := by
  rw [decode, decode, decode, ← String.ofList_append]
  obtain well_formed | breaks := whole
  · obtain ⟨text, rfl⟩ := wellFormed_iff.mp well_formed
    have alone := decodeFrom_encode text []
    rw [List.append_nil] at alone
    rw [decodeFrom_encode, alone, decodeFrom, finish, List.append_nil]
  · rw [decodeFrom_append (show State.Sound .start from trivial) breaks]

end Append

/-! ## Names -/

/-- A name is found as the text of the bytes up to the zero byte or the end of the table. -/
theorem lookup_of_holds {image : Image} {start : Nat} {front name ending : List UInt8}
    (held : image.Holds start (front ++ name ++ ending)) (free : 0 ∉ name)
    (ended : ∀ byte ∈ ending.head?, byte = 0) (inside : name ++ ending ≠ []) :
    StringTable.lookup ⟨image, start, (front ++ name ++ ending).length⟩ front.length =
      .ok (decode name) := by
  have place_lt : front.length < (front ++ name ++ ending).length := by
    have rest_pos := List.length_pos_iff.mpr inside
    simp only [List.length_append] at rest_pos ⊢
    omega
  have name_eq : (name ++ ending).takeWhile (· ≠ 0) = name := by
    rw [List.takeWhile_append_of_pos]
    · cases ending with
      | nil => simp
      | cons byte rest => simp [ended byte rfl]
    · intro byte member
      exact decide_eq_true fun is_zero => free (is_zero ▸ member)
  rw [StringTable.lookup_inside (by omega) (by simp only; omega),
    StringTable.nameBytes_of_holds held place_lt, List.append_assoc, List.drop_left, name_eq]

/-- The text of some bytes has one character for each of the parts into which they fall in one way
only.  So a text is read back from its encoding, bytes in a row are read one by one where no
character goes on from one to the next, no text is longer than its bytes, and only well-formed bytes
are found again in the encoding of their text.  A name with these bytes is found as their text. -/
theorem text_by_parts :
    (∀ bytes, ∃ parts, Part.IsSplit parts ∧ Part.join parts = bytes ∧
        decode bytes = String.ofList (parts.map Part.shown) ∧
        ∀ others, Part.IsSplit others → Part.join others = bytes → others = parts) ∧
      (∀ text, decode (encode text) = text) ∧
      (∀ front back, (WellFormed front ∨ ∀ byte ∈ back.head?, ¬ IsTail byte) →
        decode (front ++ back) = decode front ++ decode back) ∧
      (∀ bytes, (decode bytes).length ≤ bytes.length) ∧
      (∀ bytes, encode (decode bytes) = bytes ↔ WellFormed bytes) ∧
      ∀ (image : Image) (start : Nat) (front name ending : List UInt8),
        image.Holds start (front ++ name ++ ending) → 0 ∉ name →
        (∀ byte ∈ ending.head?, byte = 0) → name ++ ending ≠ [] →
        StringTable.lookup ⟨image, start, (front ++ name ++ ending).length⟩ front.length =
          .ok (decode name) := by
  refine ⟨?_, decode_encode, fun _ _ => decode_append, length_decode_le,
    fun _ => encode_decode_iff, fun _ _ _ _ _ => lookup_of_holds⟩
  intro bytes
  obtain ⟨parts, split, join_eq, text_eq⟩ := exists_parts bytes
  exact ⟨parts, split, join_eq, text_eq, fun others other_split other_join =>
    eq_of_isSplit other_split split (other_join.trans join_eq.symm)⟩

/-- Two bytes with which a character of four begins are one part, and each of the three bytes of a
surrogate is one. -/
theorem text_of_surrogate :
    let image := Image.ofList [0x5A, 0xF0, 0x9F, 0xED, 0xA0, 0x80, 0x41, 0]
    image.Holds 0 ([0x5A] ++ [0xF0, 0x9F, 0xED, 0xA0, 0x80, 0x41] ++ [0]) ∧
      StringTable.lookup ⟨image, 0, 8⟩ 1 = .ok "\uFFFD\uFFFD\uFFFD\uFFFDA" ∧
      decode ([0xF0, 0x9F] ++ [0xED, 0xA0, 0x80, 0x41]) =
        decode [0xF0, 0x9F] ++ decode [0xED, 0xA0, 0x80, 0x41] := by
  intro image
  have held : image.Holds 0 ([0x5A] ++ [0xF0, 0x9F, 0xED, 0xA0, 0x80, 0x41] ++ [0]) := by decide
  have breaks : ∀ byte ∈ ([0xED, 0xA0, 0x80, 0x41] : List UInt8).head?, ¬ IsTail byte := by
    rintro byte ⟨⟩
    decide
  have ended : ∀ byte ∈ ([0] : List UInt8).head?, byte = 0 := by
    rintro byte ⟨⟩
    rfl
  obtain ⟨_, _, in_a_row, _, _, looked_up⟩ := text_by_parts
  exact ⟨held, looked_up image 0 _ _ _ held (by decide) ended (by decide),
    in_a_row _ _ (.inr breaks)⟩

end Utf8
end ElfInspect

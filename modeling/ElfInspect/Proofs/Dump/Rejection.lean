import ElfInspect.Proofs.Dump.Pipeline

/-!
# Which images have a dump

An image is rejected in one of four ways, each of which can be told from its first bytes and its
size; every other image has a dump.  Whatever else is wrong with it leaves a marker in the dump, of
a kind that decoding recovers from.
-/

namespace ElfInspect

namespace Rejection

/-- The ways in which an image is rejected. -/
inductive Kind where
  /-- The image does not start with an identification block of the format. -/
  | badMagic
  | unsupportedClass
  | unsupportedEncoding
  | truncatedHeader
  deriving DecidableEq, Repr

/-- The way of a rejection. -/
def kind : Rejection → Kind
  | shortIdentification _ => .badMagic
  | badMagic _ => .badMagic
  | unsupportedClass _ => .unsupportedClass
  | unsupportedEncoding _ => .unsupportedEncoding
  | truncatedHeader _ _ _ => .truncatedHeader

end Rejection

namespace Image

/-- The way in which an image must be rejected, unless it has a dump. -/
def verdict? (image : Image) : Option Rejection.Kind :=
  if image.size < 16 ∨ image.toList.take 4 ≠ [0x7F, 0x45, 0x4C, 0x46] then some .badMagic
  else if image.byteAt 4 ≠ 1 ∧ image.byteAt 4 ≠ 2 then some .unsupportedClass
  else if image.byteAt 5 ≠ 1 ∧ image.byteAt 5 ≠ 2 then some .unsupportedEncoding
  else if image.size < if image.byteAt 4 = 1 then 52 else 64 then some .truncatedHeader
  else none

end Image

namespace Dump

/-- A dump in which nothing is wrong but what decoding recovers from. -/
structure Recovered (dump : Dump) : Prop where
  /-- No index of the file header counts from the end. -/
  header_nonneg : ∀ name, 0 ≤ dump.header.field name
  kind_of_marker : ∀ marker ∈ dump.markers, marker.kind ∈ Fault.recoverable

variable {image : Image} {identity : Identity} {header : FileHeader} {path : String}

/-! ## Rejection -/

theorem verdict?_of_not_hasSignature (unsigned : ¬image.HasSignature) :
    image.verdict? = some .badMagic := by
  rw [Image.verdict?, if_pos]
  by_cases short : image.size < 16
  · exact .inl short
  · exact .inr fun same_magic => unsigned ⟨Nat.le_of_not_lt short, same_magic⟩

theorem verdict?_of_hasSignature (signed : image.HasSignature) :
    image.verdict? =
      match AddressClass.ofCode? (image.byteAt 4), ByteOrder.ofCode? (image.byteAt 5) with
      | none, _ => some .unsupportedClass
      | some _, none => some .unsupportedEncoding
      | some addressClass, some _ =>
          if (FileHeader.extent addressClass).size ≤ image.size then none
          else some .truncatedHeader := by
  have block_signed : ¬(image.size < 16 ∨ image.toList.take 4 ≠ [0x7F, 0x45, 0x4C, 0x46]) := by
    rintro (short | other_magic)
    · exact absurd signed.1 (Nat.not_le_of_lt short)
    · exact other_magic signed.2
  rw [Image.verdict?, if_neg block_signed]
  cases class_eq : AddressClass.ofCode? (image.byteAt 4) with
  | none =>
      have class_unknown := AddressClass.ofCode?_eq_none_iff.mp class_eq
      rw [if_pos (by omega)]
  | some addressClass =>
      have class_code := AddressClass.ofCode?_eq_some_iff.mp class_eq
      have class_known : ¬(image.byteAt 4 ≠ 1 ∧ image.byteAt 4 ≠ 2) := by
        cases addressClass <;> simp only [AddressClass.code] at class_code <;> omega
      rw [if_neg class_known]
      cases order_eq : ByteOrder.ofCode? (image.byteAt 5) with
      | none =>
          have order_unknown := ByteOrder.ofCode?_eq_none_iff.mp order_eq
          rw [if_pos (by omega)]
      | some order =>
          have order_code := ByteOrder.ofCode?_eq_some_iff.mp order_eq
          have order_known : ¬(image.byteAt 5 ≠ 1 ∧ image.byteAt 5 ≠ 2) := by
            cases order <;> simp only [ByteOrder.code] at order_code <;> omega
          rw [if_neg order_known]
          have header_size : ((if image.byteAt 4 = 1 then 52 else 64 : Nat) : Int) =
              (FileHeader.extent addressClass).size := by
            cases addressClass with
            | bits32 =>
                rw [if_pos (by exact_mod_cast class_code)]
                rfl
            | bits64 =>
                rw [if_neg (by simp only [AddressClass.code] at class_code; omega)]
                rfl
          by_cases short : image.size < if image.byteAt 4 = 1 then 52 else 64
          · simp only [if_pos short]
            rw [if_neg (by omega)]
          · simp only [if_neg short]
            rw [if_pos (by omega)]

/-- Whether an image has a dump is settled by its first bytes and its size. -/
theorem decode_of_verdict? (image : Image) (path : String) :
    match image.verdict? with
    | some kind => ∃ rejection, decode image path = .error rejection ∧ rejection.kind = kind
    | none => ∃ dump, decode image path = .ok dump := by
  rw [decode_eq]
  by_cases signed : image.HasSignature
  · rw [verdict?_of_hasSignature signed, Identity.decode_of_hasSignature signed]
    cases AddressClass.ofCode? (image.byteAt 4) with
    | none => exact ⟨_, rfl, rfl⟩
    | some addressClass =>
        cases ByteOrder.ofCode? (image.byteAt 5) with
        | none => exact ⟨_, rfl, rfl⟩
        | some order =>
            simp only [bind, Except.bind, FileHeader.decode_eq, Identity.ofBlock]
            by_cases inside : (FileHeader.extent addressClass).size ≤ image.size
            · simp only [if_pos inside]
              exact ⟨_, rfl⟩
            · simp only [if_neg inside]
              exact ⟨_, rfl, rfl⟩
  · rw [verdict?_of_not_hasSignature signed]
    rcases Identity.decode_of_not_hasSignature signed with failed | failed
    · rw [failed]
      exact ⟨_, rfl, rfl⟩
    · rw [failed]
      exact ⟨_, rfl, rfl⟩

/-! ## Recovery -/

theorem kind_of_warning (header_nonneg : ∀ name, 0 ≤ header.field name) {marker : Marker}
    (member : marker ∈ (ofHeader image path identity header).warnings) :
    marker.kind ∈ Fault.recoverable := by
  have sections_nonneg : 0 ≤ header.sectionHeaderOffset := header_nonneg .sectionHeaderOffset
  simp only [ofHeader, List.mem_append] at member
  rcases member with (segment_mem | section_mem) | dynamic_mem
  · obtain ⟨fault, failed, rfl⟩ := Fault.mem_trace? segment_mem
    exact Segment.kind_of_decodeTable (header_nonneg .programHeaderOffset) failed
  · obtain ⟨fault, failed, rfl⟩ := Fault.mem_trace? section_mem
    exact Section.kind_of_decodeTable sections_nonneg failed
  · obtain ⟨fault, failed, rfl⟩ := Fault.mem_trace? dynamic_mem
    unfold DynamicEntry.outcome at failed
    split at failed
    · contradiction
    · rename_i found found_eq
      have found_mem := List.mem_of_find?_eq_some found_eq
      exact DynamicEntry.kind_of_decodeSection
        (namedSections_nonneg sections_nonneg found_mem .fileOffset) failed

theorem kind_of_symbolTable_marker {sections : List Section} {header : Section}
    (offset_nonneg : 0 ≤ header.fileOffset) {marker : Marker}
    (member : marker ∈ (SymbolTable.ofSection image sections identity header).markers) :
    marker.kind ∈ Fault.recoverable := by
  unfold SymbolTable.ofSection at member
  cases decoded :
      Symbol.decodeSection image header (Section.linked? sections header) identity with
  | error fault =>
      rw [decoded] at member
      obtain rfl : marker = fault.marker "symbols" := by
        simpa [SymbolTable.markers] using member
      exact Symbol.kind_of_decodeSection offset_nonneg decoded
  | ok symbols =>
      rw [decoded] at member
      have symbols_eq : symbols = Fault.entries
          (Symbol.decodeSection image header (Section.linked? sections header) identity) := by
        rw [decoded]
        rfl
      obtain ⟨symbol, symbol_mem, marked⟩ := List.mem_filterMap.mp member
      rw [symbols_eq] at symbol_mem
      exact Symbol.kind_of_nameError offset_nonneg symbol_mem marked

theorem kind_of_dynamic_marker {sections : List Section}
    (offset_nonneg : ∀ header ∈ sections, 0 ≤ header.fileOffset) {marker : Marker}
    {entry : DynamicEntry}
    (member : entry ∈ Fault.entries (DynamicEntry.outcome image sections identity))
    (marked : entry.nameError = some marker) : marker.kind ∈ Fault.recoverable := by
  unfold DynamicEntry.outcome at member
  split at member
  · contradiction
  · rename_i found found_eq
    have found_mem := List.mem_of_find?_eq_some found_eq
    exact DynamicEntry.kind_of_nameError (offset_nonneg found found_mem) member marked

theorem recovered_of_decode {dump : Dump} (decoded : decode image path = .ok dump) :
    dump.Recovered := by
  obtain ⟨identity, header, _, header_eq, rfl⟩ := decode_eq_ok_iff.mp decoded
  have header_nonneg := FileHeader.field_nonneg header_eq
  have offset_nonneg : ∀ found ∈ namedSections image identity header, 0 ≤ found.fileOffset :=
    fileOffset_nonneg image identity (header_nonneg .sectionHeaderOffset)
  constructor
  · exact header_nonneg
  · intro marker member
    simp only [markers, List.mem_append] at member
    rcases member with ((warning_mem | section_mem) | table_mem) | entry_mem
    · exact kind_of_warning header_nonneg warning_mem
    · obtain ⟨found, found_mem, marked⟩ := List.mem_filterMap.mp section_mem
      exact Section.kind_of_nameError (Section.map_unnamed_decodeTable _ _ _) found_mem marked
    · obtain ⟨table, held_mem, marker_mem⟩ := List.mem_flatMap.mp table_mem
      obtain ⟨found, found_mem, rfl⟩ := List.mem_map.mp held_mem
      exact kind_of_symbolTable_marker (offset_nonneg found (List.mem_filter.mp found_mem).1)
        marker_mem
    · obtain ⟨entry, entry_mem, marked⟩ := List.mem_filterMap.mp entry_mem
      exact kind_of_dynamic_marker offset_nonneg entry_mem marked

/-- An image is rejected exactly for its first bytes and its size, and every other image has a
dump in which every fault is recovered from. -/
theorem rejected_iff_verdict (image : Image) (path : String) :
    (∀ kind, (∃ rejection, decode image path = .error rejection ∧ rejection.kind = kind) ↔
        image.verdict? = some kind) ∧
      ((∃ dump, decode image path = .ok dump ∧ dump.Recovered) ↔ image.verdict? = none) := by
  have outcome := decode_of_verdict? image path
  constructor
  · intro kind
    cases verdict : image.verdict? with
    | none =>
        rw [verdict] at outcome
        obtain ⟨dump, decoded⟩ := outcome
        simp [decoded]
    | some found =>
        rw [verdict] at outcome
        obtain ⟨rejection, rejected, rfl⟩ := outcome
        simp [rejected]
  · cases verdict : image.verdict? with
    | none =>
        rw [verdict] at outcome
        obtain ⟨dump, decoded⟩ := outcome
        simpa using ⟨dump, decoded, recovered_of_decode decoded⟩
    | some found =>
        rw [verdict] at outcome
        obtain ⟨rejection, rejected, rfl⟩ := outcome
        simp [rejected]

end Dump
end ElfInspect

import ElfInspect.Proofs.Codes
import ElfInspect.Proofs.Dump.Consistency

/-!
# Rows of tables

A row tells of its entry all that it is meant to show.  Entries with the same row differ in nothing
but their names, the places of these, and flags that have no letter of their own.  Every address in
the rows of a dump takes up the digits of a whole word.
-/

namespace ElfInspect

/-! ## Entries with the same row -/

/-- Sections that are shown alike but for their names. -/
@[mk_iff]
structure Section.ShownAlike (left right : Section) : Prop where
  index : left.index = right.index
  sectionType : left.sectionType = right.sectionType
  address : left.address = right.address
  fileOffset : left.fileOffset = right.fileOffset
  size : left.size = right.size
  entrySize : left.entrySize = right.entrySize
  flags : SectionFlags.Agree left.flags right.flags
  link : left.link = right.link
  info : left.info = right.info
  addressAlignment : left.addressAlignment = right.addressAlignment

/-- Segments that are shown alike. -/
@[mk_iff]
structure Segment.ShownAlike (left right : Segment) : Prop where
  segmentType : left.segmentType = right.segmentType
  fileOffset : left.fileOffset = right.fileOffset
  virtualAddress : left.virtualAddress = right.virtualAddress
  physicalAddress : left.physicalAddress = right.physicalAddress
  fileSize : left.fileSize = right.fileSize
  memorySize : left.memorySize = right.memorySize
  flags : SegmentFlags.Agree left.flags right.flags
  alignment : left.alignment = right.alignment

/-- Symbols that are shown alike but for their names. -/
@[mk_iff]
structure Symbol.ShownAlike (left right : Symbol) : Prop where
  index : left.index = right.index
  value : left.value = right.value
  size : left.size = right.size
  symbolType : left.symbolType = right.symbolType
  binding : left.binding = right.binding
  visibility : left.visibility = right.visibility
  sectionIndex : left.sectionIndex = right.sectionIndex

namespace Display

theorem address_injective (addressClass : AddressClass) :
    Function.Injective (address addressClass) := Numeral.hexFill_injective _

theorem hex_injective : Function.Injective hex := by
  intro left right same
  exact Numeral.hex_injective ((String.append_right_inj _).mp same)

theorem codeCell_injective (kind : CodeKind) : Function.Injective (codeCell kind) := by
  have codeCell_eq : codeCell kind = kind.describe :=
    funext fun code => Markup.escape_eq_self (kind.isPlain_describe code)
  rw [codeCell_eq]
  exact kind.describe_injective

/-- The cells of a section but for that of its name. -/
theorem sectionRow_eq_iff (addressClass : AddressClass) (width otherWidth : Int)
    (left right : Section) :
    (sectionRow addressClass width left).eraseIdx 1 =
        (sectionRow addressClass otherWidth right).eraseIdx 1 ↔ left.ShownAlike right := by
  simp only [sectionRow, List.eraseIdx_cons_succ, List.eraseIdx_cons_zero, List.cons.injEq,
    and_true, String.append_left_inj, String.append_right_inj, (rightDecimal_injective 2).eq_iff,
    (codeCell_injective _).eq_iff, (address_injective _).eq_iff,
    (Numeral.hexFill_injective _).eq_iff, SectionFlags.text_eq_iff,
    Numeral.toString_injective.eq_iff, Section.shownAlike_iff]

theorem segmentRow_eq_iff (addressClass : AddressClass) (left right : Segment) :
    segmentRow addressClass left = segmentRow addressClass right ↔ left.ShownAlike right := by
  simp only [segmentRow, List.cons.injEq, and_true, String.append_right_inj,
    (codeCell_injective _).eq_iff, (address_injective _).eq_iff,
    (Numeral.hexFill_injective _).eq_iff, SegmentFlags.text_eq_iff, hex_injective.eq_iff,
    Segment.shownAlike_iff]

/-- The cells of a symbol but for that of its name. -/
theorem symbolRow_eq_iff (addressClass : AddressClass) (width otherWidth : Int)
    (left right : Symbol) :
    (symbolRow addressClass width left).eraseIdx 7 =
        (symbolRow addressClass otherWidth right).eraseIdx 7 ↔ left.ShownAlike right := by
  simp only [symbolRow, List.eraseIdx_cons_succ, List.eraseIdx_cons_zero, List.cons.injEq,
    and_true, String.append_left_inj, Numeral.toString_injective.eq_iff,
    (address_injective _).eq_iff, (codeCell_injective _).eq_iff,
    SectionIndex.text_injective.eq_iff, Symbol.shownAlike_iff]

end Display

/-! ## Addresses in dumps -/

/-- Numbers that are addresses of a class. -/
def AddressClass.Holds (addressClass : AddressClass) (value : Int) : Prop :=
  0 ≤ value ∧ value < Word.count addressClass.bytes

theorem Display.isHex_address {addressClass : AddressClass} {value : Int}
    (held : addressClass.Holds value) :
    Numeral.IsHex (addressDigits addressClass) (address addressClass value) := by
  have count_eq : (Word.count addressClass.bytes : Int) = 16 ^ addressDigits addressClass := by
    cases addressClass <;> rfl
  have digits_pos : 0 < addressDigits addressClass := by
    cases addressClass <;> decide
  exact Numeral.isHex_hexFill held.1 (count_eq ▸ held.2) digits_pos

/-- A field as wide as an address holds one. -/
theorem Struct.holds_of_fits {ι : Type} {struct : Struct ι} {value : ι → Int} {name : ι}
    {addressClass : AddressClass} (nonneg : ∀ name, 0 ≤ value name)
    (fits : struct.Fits fun name => (value name).toNat)
    (member : (name, addressClass.bytes) ∈ struct.members) : addressClass.Holds (value name) := by
  have value_lt := fits _ member
  have value_nonneg := nonneg name
  simp only at value_lt
  exact ⟨value_nonneg, by omega⟩

section HeaderTables

variable {image : Image} {header : FileHeader} {identity : Identity}

theorem Segment.holds_addresses (header_nonneg : ∀ name, 0 ≤ header.field name)
    {segment : Segment} (member : segment ∈ Fault.entries (decodeTable image header identity)) :
    identity.addressClass.Holds segment.virtualAddress ∧
      identity.addressClass.Holds segment.physicalAddress := by
  rw [decodeTable, layout_eq] at member
  obtain ⟨index, value, rfl, nonneg, fits⟩ := HeaderTable.fits_of_mem
    (header_nonneg .programHeaderOffset) (header_nonneg .programHeaderEntrySize)
    (header_nonneg .programHeaderCount) member
  change identity.addressClass.Holds (value .virtualAddress) ∧
    identity.addressClass.Holds (value .physicalAddress)
  constructor <;> apply Struct.holds_of_fits nonneg fits <;>
    cases identity.addressClass <;> decide

theorem Section.holds_address (header_nonneg : ∀ name, 0 ≤ header.field name) {found : Section}
    (member : found ∈ Dump.namedSections image identity header) :
    identity.addressClass.Holds found.address := by
  have unnamed_mem := List.mem_map_of_mem (f := Section.unnamed) member
  rw [Dump.map_unnamed_namedSections, decodeTable, layout_eq] at unnamed_mem
  obtain ⟨index, value, unnamed_eq, nonneg, fits⟩ := HeaderTable.fits_of_mem
    (header_nonneg .sectionHeaderOffset) (header_nonneg .sectionHeaderEntrySize)
    (header_nonneg .sectionHeaderCount) unnamed_mem
  have address_eq : found.address = value .address := congrArg Section.address unnamed_eq
  rw [address_eq]
  apply Struct.holds_of_fits nonneg fits
  cases identity.addressClass <;> decide

theorem Symbol.holds_value {sections : List Section} {held : Section} {symbol : Symbol}
    (member : symbol ∈ (SymbolTable.ofSection image sections identity held).symbols) :
    identity.addressClass.Holds symbol.value := by
  rw [SymbolTable.ofSection_eq] at member
  cases decoded : SymbolTable.outcome image sections identity held with
  | error fault =>
      rw [decoded] at member
      contradiction
  | ok symbols =>
      rw [decoded] at member
      obtain ⟨place, found⟩ := List.mem_iff_getElem?.mp member
      obtain ⟨base, _, inside, rfl⟩ := (symbol_of_decodeSection decoded).2 place symbol found
      rw [layout_eq] at inside ⊢
      have fits : (struct identity.addressClass).Fits fun name =>
          (((struct identity.addressClass).layout 0).valueAt image identity.byteOrder base
            name).toNat := Struct.fits_valueAt inside
      apply Struct.holds_of_fits (fun name => Layout.valueAt_nonneg name) fits
      cases identity.addressClass <;> decide

end HeaderTables

namespace Display

/-- In the rows of a dump every address is written with so many digits. -/
structure WritesAddresses (dump : Dump) (digits : Nat) : Prop where
  section_address : ∀ header ∈ dump.sections, ∀ width, ∃ content,
    (sectionRow dump.identity.addressClass width header)[3]? = some content ∧
      Numeral.IsHex digits content
  virtual_address : ∀ segment ∈ dump.segments, ∃ content,
    (segmentRow dump.identity.addressClass segment)[2]? = some ("0x" ++ content) ∧
      Numeral.IsHex digits content
  physical_address : ∀ segment ∈ dump.segments, ∃ content,
    (segmentRow dump.identity.addressClass segment)[3]? = some ("0x" ++ content) ∧
      Numeral.IsHex digits content
  symbol_value : ∀ table ∈ dump.symbolTables, ∀ symbol ∈ table.symbols, ∀ width, ∃ content,
    (symbolRow dump.identity.addressClass width symbol)[1]? = some content ∧
      Numeral.IsHex digits content

theorem writesAddresses_of_decode {image : Image} {path : String} {dump : Dump}
    (decoded : Dump.decode image path = .ok dump) :
    WritesAddresses dump (addressDigits dump.identity.addressClass) := by
  obtain ⟨identity, header, _, header_eq, rfl⟩ := Dump.decode_eq_ok_iff.mp decoded
  have header_nonneg := FileHeader.field_nonneg header_eq
  constructor
  case section_address =>
    intro found member width
    exact ⟨_, rfl, isHex_address (Section.holds_address header_nonneg member)⟩
  case virtual_address =>
    intro segment member
    exact ⟨_, rfl, isHex_address (Segment.holds_addresses header_nonneg member).1⟩
  case physical_address =>
    intro segment member
    exact ⟨_, rfl, isHex_address (Segment.holds_addresses header_nonneg member).2⟩
  case symbol_value =>
    intro table table_mem symbol member width
    obtain ⟨held, _, rfl⟩ := List.mem_map.mp table_mem
    exact ⟨_, rfl, isHex_address (Symbol.holds_value member)⟩

/-- Rows are faithful: two of a kind have the same cells, names aside, exactly if their entries are
the same in everything else that is shown, and no two codes or section indices have the same text.
In the rows of a dump addresses have the digits of their class. -/
theorem rows_faithful :
    (∀ addressClass width otherWidth (left right : Section),
        (sectionRow addressClass width left).eraseIdx 1 =
          (sectionRow addressClass otherWidth right).eraseIdx 1 ↔ left.ShownAlike right) ∧
      (∀ addressClass (left right : Segment),
        segmentRow addressClass left = segmentRow addressClass right ↔ left.ShownAlike right) ∧
      (∀ addressClass width otherWidth (left right : Symbol),
        (symbolRow addressClass width left).eraseIdx 7 =
          (symbolRow addressClass otherWidth right).eraseIdx 7 ↔ left.ShownAlike right) ∧
      (∀ kind : CodeKind, Function.Injective kind.describe) ∧
      Function.Injective SectionIndex.text ∧
      ∀ image path dump, Dump.decode image path = .ok dump →
        (dump.identity.addressClass = .bits32 → WritesAddresses dump 8) ∧
          (dump.identity.addressClass = .bits64 → WritesAddresses dump 16) := by
  refine ⟨sectionRow_eq_iff, segmentRow_eq_iff, symbolRow_eq_iff, CodeKind.describe_injective,
    SectionIndex.text_injective, ?_⟩
  intro image path dump decoded
  have written := writesAddresses_of_decode decoded
  constructor <;> intro class_eq <;> rwa [class_eq] at written

/-- The small image has a section, a segment and a symbol, all with addresses of 8 digits. -/
theorem rows_of_small :
    ∃ dump, Dump.decode (Dump.small 0) "" = .ok dump ∧ dump.sections.length = 1 ∧
      dump.segments.length = 1 ∧ dump.symbolTables.map (·.symbols.length) = [1] ∧
      WritesAddresses dump 8 := by
  obtain ⟨dump, decoded, checked⟩ :
      ∃ dump, Dump.decode (Dump.small 0) "" = .ok dump ∧
        decide (dump.identity.addressClass = .bits32 ∧ dump.sections.length = 1 ∧
          dump.segments.length = 1 ∧ dump.symbolTables.map (·.symbols.length) = [1]) = true :=
    Dump.exists_of_any_decode (by decide +kernel)
  obtain ⟨class_eq, sections, segments, symbols⟩ := of_decide_eq_true checked
  exact ⟨dump, decoded, sections, segments, symbols,
    (rows_faithful.2.2.2.2.2 _ _ dump decoded).1 class_eq⟩

end Display
end ElfInspect

import ElfInspect.Proofs.Symbol

/-!
# Which tables cannot be read

Three declared numbers and the length of the image settle whether a table can be read: the size of
its entries, their number and the offset of the first one.  The entry size is looked at first, then
the end of the table.  A table that passes both looks has all its entries, since no read inside it
leaves the image.
-/

namespace ElfInspect

/-- The size of a program header. -/
def Segment.recordSize : AddressClass → Int
  | .bits32 => 32
  | .bits64 => 56

/-- The size of a section header. -/
def Section.recordSize : AddressClass → Int
  | .bits32 => 40
  | .bits64 => 64

/-- The size of a symbol record. -/
def Symbol.recordSize : AddressClass → Int
  | .bits32 => 16
  | .bits64 => 24

namespace Table

/-- The outcome of a table is the one that its declared numbers call for.  Of the four conditions
exactly one holds. -/
structure SettledBy {α : Type} (table : String) (recordSize length offset entrySize count : Int)
    (outcome : Except Fault (List α)) : Prop where
  zero_iff : outcome = .error (.zeroEntrySize table) ↔ entrySize = 0
  short_iff :
    outcome = .error (.shortEntrySize table entrySize recordSize) ↔
      entrySize ≠ 0 ∧ entrySize < recordSize
  outside_iff :
    outcome =
        .error (.outOfBounds
          { subject := table, offset := offset, width := entrySize * count, length := length }) ↔
      recordSize ≤ entrySize ∧ length < offset + entrySize * count
  complete_iff :
    (∃ entries, outcome = .ok entries ∧ (entries.length : Int) = count) ↔
      recordSize ≤ entrySize ∧ offset + entrySize * count ≤ length

/-- No read of an entry fails in a table that its declared numbers allow. -/
def NeverFailsInside {α : Type} (recordSize length offset entrySize count : Int)
    (read : Nat → Except Fault α) : Prop :=
  recordSize ≤ entrySize → offset + entrySize * count ≤ length →
    ∀ index : Nat, (index : Int) < count → ∃ entry, read index = .ok entry

end Table

/-- A header table without entries is empty, whatever else it declares; any other is settled by its
declared numbers. -/
structure HeaderTable.SettledBy {α β : Type} (table : String)
    (recordSize length offset entrySize count : Int) (read : Nat → Except Fault α)
    (outcome : Except Fault (List β)) : Prop where
  empty : count = 0 → outcome = .ok []
  settled : count ≠ 0 → Table.SettledBy table recordSize length offset entrySize count outcome
  never_fails : Table.NeverFailsInside recordSize length offset entrySize count read

/-! ## Outcomes -/

theorem Fault.outcome_eq_error_iff {α : Type} {fault? : Option Fault} {value : α} {fault : Fault} :
    outcome fault? value = .error fault ↔ fault? = some fault := by
  constructor
  · exact eq_some_of_outcome
  · rintro rfl
    rfl

theorem Fault.exists_outcome_eq_ok_iff {α : Type} {fault? : Option Fault} {value : List α}
    {count : Int} (complete : (value.length : Int) = count) :
    (∃ found, outcome fault? value = .ok found ∧ (found.length : Int) = count) ↔
      fault? = none := by
  cases fault? with
  | none => exact iff_of_true ⟨value, rfl, complete⟩ rfl
  | some fault => simp [outcome]

namespace Table

section Outcome

variable {α : Type} {table : String} {recordSize length offset entrySize count : Int}

theorem settledBy_outcome {entries : List α} (record_pos : 0 < recordSize)
    (complete : (entries.length : Int) = count) :
    SettledBy table recordSize length offset entrySize count
      (Fault.outcome (fault? table recordSize length offset entrySize count) entries) := by
  constructor
  case zero_iff =>
    rw [Fault.outcome_eq_error_iff, fault?]
    grind
  case short_iff =>
    rw [Fault.outcome_eq_error_iff, fault?]
    grind
  case outside_iff =>
    rw [Fault.outcome_eq_error_iff, fault?]
    grind
  case complete_iff =>
    rw [Fault.exists_outcome_eq_ok_iff complete, fault?_eq_none_iff]
    omega

end Outcome

section Records

variable {ι : Type} [DecidableEq ι] {layout : Layout ι} {offset entrySize count : Int}

/-- No record of a table can fail to be read where the declared numbers allow the table. -/
theorem neverFailsInside_read (image : Image) (order : ByteOrder) (sound : layout.Sound)
    (offset_nonneg : 0 ≤ offset) :
    NeverFailsInside layout.size image.size offset entrySize count fun index : Nat =>
      layout.read image order (offset + index * entrySize) := by
  intro size_le inside index index_lt
  have no_fault : fault? "" layout.size image.size offset entrySize count = none :=
    fault?_eq_none_iff.mpr ⟨by have := sound.size_pos; omega, size_le, inside⟩
  have index_lt_count : index < count.toNat := by omega
  exact ⟨_, (read_entry image order sound offset_nonneg no_fault index_lt_count).2⟩

end Records

end Table

namespace HeaderTable

variable {ι : Type} [DecidableEq ι] {layout : Layout ι} {table : HeaderTable}

/-- No entry of a header table is found to leave the image by itself. -/
theorem neverFailsInside_readEntry (image : Image) (order : ByteOrder) (sound : layout.Sound)
    (offset_nonneg : 0 ≤ table.offset) :
    Table.NeverFailsInside layout.size image.size table.offset table.entrySize table.count
      (table.readEntry layout image order) := by
  intro size_le inside index index_lt
  have size_nonneg : 0 ≤ table.entrySize := Int.le_trans sound.size_nonneg size_le
  have index_lt_count : index < table.count.toNat := by omega
  have stop_le := (Table.entry_inside table.offset size_nonneg index_lt_count).2
  rw [readEntry, if_neg (by omega)]
  exact Table.neverFailsInside_read image order sound offset_nonneg size_le inside index index_lt

theorem settledBy_decode {α : Type} (table : HeaderTable) (build : Int → (ι → Int) → α)
    (image : Image) (order : ByteOrder) (sound : layout.Sound)
    (offset_nonneg : 0 ≤ table.offset) (count_nonneg : 0 ≤ table.count) :
    SettledBy table.name layout.size image.size table.offset table.entrySize table.count
      (table.readEntry layout image order)
      ((table.read layout image order).map fun records =>
        records.mapIdx fun index record => build index record.get) := by
  have values_length : (table.values layout image order).length = table.count.toNat := by
    rw [values, Table.values, List.length_map, List.length_range]
  constructor
  case empty =>
    intro no_entries
    rw [read, if_pos no_entries]
    rfl
  case settled =>
    intro has_entries
    rw [decode_eq build image order sound offset_nonneg, fault?, if_neg has_entries]
    apply Table.settledBy_outcome sound.size_pos
    rw [List.length_mapIdx, values_length]
    exact Int.toNat_of_nonneg count_nonneg
  case never_fails => exact neverFailsInside_readEntry image order sound offset_nonneg

end HeaderTable

/-! ## The tables of an image -/

theorem Segment.layout_size (addressClass : AddressClass) :
    (layout addressClass).size = recordSize addressClass := by
  cases addressClass <;> rfl

theorem Section.layout_size (addressClass : AddressClass) :
    (layout addressClass).size = recordSize addressClass := by
  cases addressClass <;> rfl

namespace Symbol

theorem layout_size (addressClass : AddressClass) :
    (layout addressClass).size = recordSize addressClass := by
  cases addressClass <;> rfl

theorem settledBy_decodeSection {header : Section} (image : Image) (linked : Option Section)
    (identity : Identity) (header_nonneg : ∀ name, 0 ≤ header.field name) :
    Table.SettledBy ("symbol table section " ++ toString header.index)
      (layout identity.addressClass).size image.size header.fileOffset header.entrySize
      (header.size / header.entrySize) (decodeSection image header linked identity) := by
  have count_nonneg : 0 ≤ header.size / header.entrySize :=
    Int.ediv_nonneg (header_nonneg .size) (header_nonneg .entrySize)
  rw [decodeSection_eq image linked identity (header_nonneg .fileOffset), fault?]
  apply Table.settledBy_outcome (layout_sound _).size_pos
  rw [List.length_mapIdx, values, Table.values, List.length_map, List.length_range]
  exact Int.toNat_of_nonneg count_nonneg

end Symbol

/-- The declared numbers alone settle which header tables and which symbol tables can be read.  A
symbol table without records has to end inside the image, too. -/
theorem tables_settled_by_numbers (image : Image) (identity : Identity) :
    (∀ header : FileHeader, (∀ name, 0 ≤ header.field name) →
        HeaderTable.SettledBy "program header table" (Segment.recordSize identity.addressClass)
            image.size header.programHeaderOffset header.programHeaderEntrySize
            header.programHeaderCount
            (header.programHeaders.readEntry (Segment.layout identity.addressClass) image
              identity.byteOrder)
            (Segment.decodeTable image header identity) ∧
          HeaderTable.SettledBy "section header table" (Section.recordSize identity.addressClass)
            image.size header.sectionHeaderOffset header.sectionHeaderEntrySize
            header.sectionHeaderCount
            (header.sectionHeaders.readEntry (Section.layout identity.addressClass) image
              identity.byteOrder)
            (Section.decodeTable image header identity)) ∧
      ∀ (header : Section) (linked : Option Section), (∀ name, 0 ≤ header.field name) →
        Table.SettledBy ("symbol table section " ++ toString header.index)
            (Symbol.recordSize identity.addressClass) image.size header.fileOffset
            header.entrySize (header.size / header.entrySize)
            (Symbol.decodeSection image header linked identity) ∧
          Table.NeverFailsInside (Symbol.recordSize identity.addressClass) image.size
            header.fileOffset header.entrySize (header.size / header.entrySize)
            fun index : Nat =>
              (Symbol.layout identity.addressClass).read image identity.byteOrder
                (header.fileOffset + index * header.entrySize) := by
  rw [← Segment.layout_size, ← Section.layout_size, ← Symbol.layout_size]
  constructor
  · intro header header_nonneg
    constructor
    · exact HeaderTable.settledBy_decode header.programHeaders Segment.ofFields image _
        (Segment.layout_sound _) (header_nonneg .programHeaderOffset)
        (header_nonneg .programHeaderCount)
    · exact HeaderTable.settledBy_decode header.sectionHeaders Section.ofFields image _
        (Section.layout_sound _) (header_nonneg .sectionHeaderOffset)
        (header_nonneg .sectionHeaderCount)
  · intro header linked header_nonneg
    constructor
    · exact Symbol.settledBy_decodeSection image linked identity header_nonneg
    · exact Table.neverFailsInside_read image _ (Symbol.layout_sound _)
        (header_nonneg .fileOffset)

/-- Over one image, a program header table that ends with it, a section header table that ends one
byte later, and a symbol table without records that lies behind the end. -/
theorem tables_settled_at_the_end :
    let image := Image.ofList (List.replicate 64 0)
    let identity : Identity := { addressClass := .bits64, byteOrder := .little }
    let header : FileHeader :=
      { programHeaderOffset := 8, programHeaderEntrySize := 56, programHeaderCount := 1
        sectionHeaderOffset := 1, sectionHeaderEntrySize := 64, sectionHeaderCount := 1 }
    let symbols : Section := { index := 3, fileOffset := 65, size := 23, entrySize := 24 }
    (∃ entries, Segment.decodeTable image header identity = .ok entries ∧
        (entries.length : Int) = 1) ∧
      Section.decodeTable image header identity =
        .error (.outOfBounds
          { subject := "section header table", offset := 1, width := 64, length := 64 }) ∧
      Symbol.decodeSection image symbols none identity =
        .error (.outOfBounds
          { subject := "symbol table section 3", offset := 65, width := 0, length := 64 }) := by
  intro image identity header symbols
  have header_nonneg : ∀ name, 0 ≤ header.field name := by
    intro name
    cases name <;> decide
  have symbols_nonneg : ∀ name, 0 ≤ symbols.field name := by
    intro name
    cases name <;> decide
  obtain ⟨headers_settled, symbols_settled⟩ := tables_settled_by_numbers image identity
  obtain ⟨segments, sections⟩ := headers_settled header header_nonneg
  have symbol_table := (symbols_settled symbols none symbols_nonneg).1
  exact ⟨(segments.settled (by decide)).complete_iff.mpr (by decide),
    (sections.settled (by decide)).outside_iff.mpr (by decide),
    symbol_table.outside_iff.mpr (by decide)⟩

end ElfInspect

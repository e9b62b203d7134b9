import ElfInspect.Proofs.DynamicEntry
import ElfInspect.Proofs.Symbol

/-!
# The policy on declared entry sizes

A table may declare entries larger than their record, but not smaller ones.  The tables of headers
and of symbols keep to that: what follows the record of an entry is skipped.  The dynamic table has
a stride of its own, whatever its section declares.
-/

namespace ElfInspect

/-- The bytes from an offset on, as many as a record has. -/
def Image.record (image : Image) (offset size : Int) : List UInt8 :=
  image.slice offset.toNat (offset + size).toNat

namespace Table

/-- The entries of a table told by their records, each at as many strides as come before it.  There
are as many as are counted, or fewer if one before is the last. -/
def strided {α : Type} (image : Image) (recordSize offset stride count : Int)
    (isLast : α → Bool) (ofRecord : Nat → List UInt8 → α) : List α :=
  upTo isLast ((List.range count.toNat).map fun index =>
    ofRecord index (image.record (offset + index * stride) recordSize))

/-- The outcome of a table keeps to the policy: entries declared too small for their record are
rejected, and otherwise the entries are those at the declared strides. -/
structure KeepsEntrySize {α : Type} (image : Image) (recordSize offset entrySize count : Int)
    (isLast : α → Bool) (ofRecord : Nat → List UInt8 → α) (outcome : Except Fault (List α)) :
    Prop where
  rejected : entrySize < recordSize → ∃ fault, outcome = .error fault ∧ fault.kind = "BadEntrySize"
  accepted : recordSize ≤ entrySize →
    outcome = .ok (strided image recordSize offset entrySize count isLast ofRecord)

end Table

/-- The section declares entries of some size and lies inside the image. -/
structure Section.DeclaresStride (header : Section) (image : Image) : Prop where
  offset_nonneg : 0 ≤ header.fileOffset
  size_ne : header.entrySize ≠ 0
  inside : header.fileOffset + header.size ≤ image.size

/-- The file header declares a table of entries of some size, which lies inside the image. -/
structure HeaderTable.DeclaresStride (table : HeaderTable) (image : Image) : Prop where
  offset_nonneg : 0 ≤ table.offset
  count_ne : table.count ≠ 0
  size_ne : table.entrySize ≠ 0
  inside : table.offset + table.entrySize * table.count ≤ image.size

/-! ## Records on their own -/

theorem Image.slice_slice {image : Image} {start stop inner innerStop : Nat}
    (inside : start + innerStop ≤ stop) :
    (Image.ofList (image.slice start stop)).slice inner innerStop =
      image.slice (start + inner) (start + innerStop) := by
  apply List.ext_getElem?
  intro place
  rw [getElem?_slice, getElem?_slice, toList_ofList, getElem?_slice, Nat.add_assoc]
  by_cases before : inner + place < innerStop
  · rw [if_pos before, if_pos (by omega), if_pos (by omega)]
  · rw [if_neg before, if_neg (by omega)]

theorem Image.wordAt_record (image : Image) (order : ByteOrder) {base size offset width : Int}
    (base_nonneg : 0 ≤ base) (nonneg : 0 ≤ offset) (width_nonneg : 0 ≤ width)
    (inside : offset + width ≤ size) :
    (Image.ofList (image.record base size)).wordAt order offset width =
      image.wordAt order (base + offset) width := by
  rw [wordAt, wordAt, record, slice_slice (by omega)]
  congr 2 <;> omega

/-- A record can be read from its own bytes alone. -/
theorem Layout.valueAt_record {ι : Type} [DecidableEq ι] {layout : Layout ι} {base : Int}
    (sound : layout.Sound) (nonneg : 0 ≤ base) (image : Image) (order : ByteOrder) :
    layout.valueAt (Image.ofList (image.record base layout.size)) order 0 =
      layout.valueAt image order base := by
  funext name
  rw [valueAt, valueAt]
  split
  · rename_i field found
    have member := (lastField?_mem found).1
    obtain ⟨supported, offset_nonneg⟩ := sound.readable field member
    have field_le := (size_le_iff sound.nonempty).mp (Int.le_refl _) field member
    rw [Int.zero_add, Image.wordAt_record image order nonneg offset_nonneg (by omega) field_le]
  · rfl

namespace Table

variable {ι α : Type} [DecidableEq ι] {layout : Layout ι} {offset entrySize count : Int}

/-- A table of records keeps to the policy if it declares entries and lies inside the image. -/
theorem keepsEntrySize_of_inside (build : Nat → (ι → Int) → α) (table : String) {image : Image}
    (order : ByteOrder) (sound : layout.Sound) (offset_nonneg : 0 ≤ offset)
    (size_ne : entrySize ≠ 0) (inside : offset + entrySize * count ≤ image.size) :
    KeepsEntrySize image layout.size offset entrySize count (fun _ => false)
      (fun index bytes => build index (layout.valueAt (Image.ofList bytes) order 0))
      (Fault.outcome (fault? table layout.size image.size offset entrySize count)
        ((values layout image order offset entrySize count).mapIdx build)) := by
  constructor
  case rejected =>
    intro too_small
    rw [fault?, if_neg size_ne, if_pos too_small]
    exact ⟨_, rfl, rfl⟩
  case accepted =>
    intro size_le
    have no_fault : fault? table layout.size image.size offset entrySize count = none :=
      fault?_eq_none_iff.mpr ⟨size_ne, size_le, inside⟩
    rw [no_fault, mapIdx_values, strided, upTo_never, Fault.outcome]
    congr 1
    apply List.map_congr_left
    intro index _
    have stride_nonneg : 0 ≤ index * entrySize :=
      Int.mul_nonneg (Int.natCast_nonneg index) (Int.le_trans sound.size_nonneg size_le)
    rw [Layout.valueAt_record sound (by omega)]

end Table

theorem HeaderTable.keepsEntrySize {ι α : Type} [DecidableEq ι] {layout : Layout ι}
    {table : HeaderTable} (build : Int → (ι → Int) → α) {image : Image} (order : ByteOrder)
    (sound : layout.Sound) (declared : table.DeclaresStride image) :
    Table.KeepsEntrySize image layout.size table.offset table.entrySize table.count
      (fun _ => false)
      (fun index bytes => build index (layout.valueAt (Image.ofList bytes) order 0))
      ((table.read layout image order).map fun records =>
        records.mapIdx fun index record => build index record.get) := by
  rw [decode_eq build image order sound declared.offset_nonneg, fault?, if_neg declared.count_ne]
  exact Table.keepsEntrySize_of_inside (fun index value => build index value) table.name order sound
    declared.offset_nonneg declared.size_ne declared.inside

theorem Symbol.keepsEntrySize {header : Section} {image : Image} (linked : Option Section)
    (identity : Identity) (declares : header.DeclaresStride image) :
    Table.KeepsEntrySize image (layout identity.addressClass).size header.fileOffset
      header.entrySize (header.size / header.entrySize) (fun _ => false)
      (fun index bytes =>
        ofFields index (linkedStrings image header.link linked)
          ((layout identity.addressClass).valueAt (Image.ofList bytes) identity.byteOrder 0))
      (decodeSection image header linked identity) := by
  have whole_records := Int.mul_ediv_self_le (x := header.size) declares.size_ne
  have size_le := declares.inside
  rw [decodeSection_eq image linked identity declares.offset_nonneg]
  exact Table.keepsEntrySize_of_inside
    (fun index value => ofFields index (linkedStrings image header.link linked) value) _
    identity.byteOrder (layout_sound _) declares.offset_nonneg declares.size_ne (by omega)

/-! ## The dynamic table -/

namespace DynamicEntry

/-- The entry whose record has given bytes. -/
def ofRecord (strings : Except Fault StringTable) (identity : Identity) (bytes : List UInt8) :
    DynamicEntry :=
  let width := wordSize identity.addressClass
  let record := Image.ofList bytes
  ofWords strings (Word.signed width (record.wordAt identity.byteOrder 0 width))
    (record.wordAt identity.byteOrder width width)

/-- The size of the record of an entry: two words. -/
def recordSize : AddressClass → Int
  | .bits32 => 8
  | .bits64 => 16

theorem entrySize_eq_recordSize (addressClass : AddressClass) :
    (entrySize addressClass : Int) = recordSize addressClass := by
  cases addressClass <;> rfl

/-- The entries that a stride makes of the table of a section, up to the first null tag. -/
def strided (image : Image) (header : Section) (linked : Option Section) (identity : Identity)
    (stride : Int) : List DynamicEntry :=
  Table.strided image (recordSize identity.addressClass) header.fileOffset stride
    (header.size / stride) (fun entry => entry.tag = 0)
    fun _ => ofRecord (linkedStrings image header.link linked) identity

variable {image : Image} {header : Section} {identity : Identity}

theorem ofRecord_record (strings : Except Fault StringTable) (offset_nonneg : 0 ≤ header.fileOffset)
    (index : Nat) :
    ofRecord strings identity
        (image.record (header.fileOffset + index * entrySize identity.addressClass)
          (entrySize identity.addressClass)) =
      ofWords strings (wordsAt image header identity index).1
        (wordsAt image header identity index).2 := by
  have size_eq := entrySize_eq identity.addressClass
  have base_nonneg : 0 ≤ header.fileOffset + index * (entrySize identity.addressClass : Int) :=
    Int.add_nonneg offset_nonneg (Int.mul_nonneg (Int.natCast_nonneg _) (Int.natCast_nonneg _))
  rw [ofRecord, wordsAt]
  simp only
  rw [Image.wordAt_record image _ base_nonneg (Int.le_refl 0) (Int.natCast_nonneg _) (by omega),
    Image.wordAt_record image _ base_nonneg (Int.natCast_nonneg _) (Int.natCast_nonneg _)
      (by omega), Int.add_zero]

/-- The entries of a dynamic table are those at strides of the size of a record. -/
theorem decodeSection_eq_strided (linked : Option Section) (identity : Identity)
    (offset_nonneg : 0 ≤ header.fileOffset)
    (inside : header.fileOffset + header.size ≤ image.size) :
    decodeSection image header linked identity =
      .ok (strided image header linked identity (recordSize identity.addressClass)) := by
  have no_fault : fault? header image.size = none := if_neg (by omega)
  have last_iff : ((fun entry : DynamicEntry => decide (entry.tag = 0)) ∘ fun pair : Int × Int =>
      ofWords (linkedStrings image header.link linked) pair.1 pair.2) =
        fun pair => decide (pair.1 = DynamicTag.null) := by
    funext pair
    exact decide_eq_decide.mpr (by rw [tag_ofWords, DynamicTag.null])
  rw [decodeSection_eq image linked identity offset_nonneg, no_fault, Fault.outcome, words,
    ← last_iff, ← Table.upTo_map, List.map_map, strided, Table.strided,
    ← entrySize_eq_recordSize]
  congr 2
  apply List.map_congr_left
  intro index _
  exact (ofRecord_record _ offset_nonneg index).symm

/-- A dynamic table keeps to the policy exactly where entries are not declared too small and the
declared strides give the same entries as its own ones. -/
theorem keepsEntrySize_iff (linked : Option Section) (offset_nonneg : 0 ≤ header.fileOffset)
    (inside : header.fileOffset + header.size ≤ image.size) :
    Table.KeepsEntrySize image (recordSize identity.addressClass) header.fileOffset
        header.entrySize (header.size / header.entrySize) (fun entry => entry.tag = 0)
        (fun _ => ofRecord (linkedStrings image header.link linked) identity)
        (decodeSection image header linked identity) ↔
      recordSize identity.addressClass ≤ header.entrySize ∧
        strided image header linked identity (recordSize identity.addressClass) =
          strided image header linked identity header.entrySize := by
  rw [decodeSection_eq_strided linked identity offset_nonneg inside]
  constructor
  · intro keeps
    have size_le : recordSize identity.addressClass ≤ header.entrySize := by
      refine Int.not_lt.mp fun too_small => ?_
      obtain ⟨fault, failed, _⟩ := keeps.rejected too_small
      contradiction
    exact ⟨size_le, Except.ok.inj (keeps.accepted size_le)⟩
  · rintro ⟨size_le, same⟩
    exact ⟨fun too_small => absurd size_le (by omega), fun _ => congrArg Except.ok same⟩

end DynamicEntry

/-- The tables of headers and of symbols keep to the policy.  The dynamic table has its own strides
whatever entry size its section declares, and so keeps to the policy only by chance. -/
theorem keepsEntrySize_but_for_dynamic (image : Image) (identity : Identity) :
    (∀ header : FileHeader, header.programHeaders.DeclaresStride image →
        Table.KeepsEntrySize image (Segment.layout identity.addressClass).size
          header.programHeaderOffset header.programHeaderEntrySize header.programHeaderCount
          (fun _ => false)
          (fun index bytes =>
            Segment.ofFields index
              ((Segment.layout identity.addressClass).valueAt (Image.ofList bytes)
                identity.byteOrder 0))
          (Segment.decodeTable image header identity)) ∧
      (∀ header : FileHeader, header.sectionHeaders.DeclaresStride image →
        Table.KeepsEntrySize image (Section.layout identity.addressClass).size
          header.sectionHeaderOffset header.sectionHeaderEntrySize header.sectionHeaderCount
          (fun _ => false)
          (fun index bytes =>
            Section.ofFields index
              ((Section.layout identity.addressClass).valueAt (Image.ofList bytes)
                identity.byteOrder 0))
          (Section.decodeTable image header identity)) ∧
      ∀ (header : Section) (linked : Option Section), header.DeclaresStride image →
        Table.KeepsEntrySize image (Symbol.layout identity.addressClass).size header.fileOffset
            header.entrySize (header.size / header.entrySize) (fun _ => false)
            (fun index bytes =>
              Symbol.ofFields index (Symbol.linkedStrings image header.link linked)
                ((Symbol.layout identity.addressClass).valueAt (Image.ofList bytes)
                  identity.byteOrder 0))
            (Symbol.decodeSection image header linked identity) ∧
          (∀ entrySize,
            DynamicEntry.decodeSection image { header with entrySize := entrySize } linked
                identity =
              .ok (DynamicEntry.strided image header linked identity
                (DynamicEntry.recordSize identity.addressClass))) ∧
          (Table.KeepsEntrySize image (DynamicEntry.recordSize identity.addressClass)
              header.fileOffset header.entrySize (header.size / header.entrySize)
              (fun entry => entry.tag = 0)
              (fun _ => DynamicEntry.ofRecord
                (DynamicEntry.linkedStrings image header.link linked) identity)
              (DynamicEntry.decodeSection image header linked identity) ↔
            DynamicEntry.recordSize identity.addressClass ≤ header.entrySize ∧
              DynamicEntry.strided image header linked identity
                  (DynamicEntry.recordSize identity.addressClass) =
                DynamicEntry.strided image header linked identity header.entrySize) := by
  refine ⟨?segments, ?sections, ?linking⟩
  case segments =>
    intro header declared
    exact HeaderTable.keepsEntrySize Segment.ofFields _ (Segment.layout_sound _) declared
  case sections =>
    intro header declared
    exact HeaderTable.keepsEntrySize Section.ofFields _ (Section.layout_sound _) declared
  case linking =>
    intro header linked declares
    have decoded := DynamicEntry.decodeSection_eq_strided linked identity declares.offset_nonneg
      declares.inside
    exact ⟨Symbol.keepsEntrySize linked identity declares, fun _ => decoded,
      DynamicEntry.keepsEntrySize_iff linked declares.offset_nonneg declares.inside⟩

/-- Two dynamic entries that are each followed by four bytes of padding. -/
def paddedImage : Image :=
  Image.ofList
    [10, 0, 0, 0, 4, 0, 0, 0, 0xFF, 0xFF, 0xFF, 0xFF, 11, 0, 0, 0, 16, 0, 0, 0, 0xFF, 0xFF, 0xFF,
      0xFF]

/-- The section of the padded entries, with the size that it declares for each of them. -/
def paddedSection (entrySize : Int) : Section :=
  { index := 0, sectionType := 6, size := 24, entrySize := entrySize }

/-- Headers that are declared too small are rejected, a symbol may be followed by padding, and the
dynamic entries are the same with and without it. -/
theorem entry_sizes_padded :
    (∃ fault,
        Segment.decodeTable paddedImage { programHeaderEntrySize := 24, programHeaderCount := 1 }
          { addressClass := .bits32, byteOrder := .little } = .error fault ∧
          fault.kind = "BadEntrySize") ∧
      (∃ fault,
        Section.decodeTable paddedImage { sectionHeaderEntrySize := 12, sectionHeaderCount := 2 }
          { addressClass := .bits32, byteOrder := .little } = .error fault ∧
          fault.kind = "BadEntrySize") ∧
      (∃ symbols,
        Symbol.decodeSection paddedImage (paddedSection 20) none
          { addressClass := .bits32, byteOrder := .little } = .ok symbols ∧
          symbols.map Symbol.size = [0xFFFFFFFF]) ∧
      DynamicEntry.decodeSection paddedImage (paddedSection 12) none
          { addressClass := .bits32, byteOrder := .little } =
        DynamicEntry.decodeSection paddedImage (paddedSection 8) none
          { addressClass := .bits32, byteOrder := .little } := by
  obtain ⟨segments, sections, linking⟩ :=
    keepsEntrySize_but_for_dynamic paddedImage { addressClass := .bits32, byteOrder := .little }
  have declares : ∀ entrySize ≠ 0, (paddedSection entrySize).DeclaresStride paddedImage :=
    fun _ size_ne => ⟨Int.le_refl 0, size_ne, (by decide : (0 : Int) + 24 ≤ paddedImage.size)⟩
  refine ⟨?segments, ?sections, ?symbols, ?dynamic⟩
  case segments =>
    exact (segments { programHeaderEntrySize := 24, programHeaderCount := 1 }
      ⟨by decide, by decide, by decide, by decide⟩).rejected (by decide)
  case sections =>
    exact (sections { sectionHeaderEntrySize := 12, sectionHeaderCount := 2 }
      ⟨by decide, by decide, by decide, by decide⟩).rejected (by decide)
  case symbols =>
    have decoded := (linking (paddedSection 20) none (declares 20 (by decide))).1.accepted
      (by decide)
    exact ⟨_, decoded, rfl⟩
  case dynamic =>
    have decoded := (linking (paddedSection 8) none (declares 8 (by decide))).2.1
    exact (decoded 12).trans (decoded 8).symm

/-- The policy asks for the two entries and for none that overlaps their padding. -/
theorem not_keepsEntrySize_padded :
    (paddedSection 12).DeclaresStride paddedImage ∧
      ¬Table.KeepsEntrySize paddedImage 8 0 12 2
        (fun entry => entry.tag = 0)
        (fun _ => DynamicEntry.ofRecord (DynamicEntry.linkedStrings paddedImage 0 none)
          { addressClass := .bits32, byteOrder := .little })
        (DynamicEntry.decodeSection paddedImage (paddedSection 12) none
          { addressClass := .bits32, byteOrder := .little }) := by
  refine ⟨⟨by decide, by decide, by decide⟩, fun keeps => ?_⟩
  have lengths := congrArg (fun outcome => outcome.toOption.map List.length)
    (keeps.accepted (by decide))
  revert lengths
  decide +kernel

end ElfInspect

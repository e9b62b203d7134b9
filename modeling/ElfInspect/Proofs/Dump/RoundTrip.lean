import ElfInspect.Proofs.Dump.Pipeline
import ElfInspect.Proofs.EncodedTable

/-!
# Headers survive a round trip

The format encodes an identification block, a file header and two header tables.  The dump of an
image that holds such an encoding has the encoded values, whatever its other bytes are; and the
headers of a dump that lost neither table, encoded again, are what the image holds.
-/

namespace ElfInspect

/-- The headers of a file before they are written. -/
structure EncodedHeaders where
  addressClass : AddressClass
  byteOrder : ByteOrder
  /-- The identification block. -/
  block : List UInt8
  header : FileHeader.FieldName → Nat
  programHeaders : List (Segment.FieldName → Nat)
  sectionHeaders : List (Section.FieldName → Nat)

namespace EncodedHeaders

/-- The program header table at the place that the file header gives. -/
def programTable (headers : EncodedHeaders) : EncodedTable Segment.FieldName :=
  { offset := headers.header .programHeaderOffset
    entrySize := headers.header .programHeaderEntrySize
    values := headers.programHeaders }

/-- The section header table at the place that the file header gives. -/
def sectionTable (headers : EncodedHeaders) : EncodedTable Section.FieldName :=
  { offset := headers.header .sectionHeaderOffset
    entrySize := headers.header .sectionHeaderEntrySize
    values := headers.sectionHeaders }

/-- The block names the class and byte order in use, every value fits into its field, and the file
header tells the sizes of both tables. -/
structure WellFormed (headers : EncodedHeaders) : Prop where
  block_length : headers.block.length = 16
  signature : headers.block.take 4 = [0x7F, 0x45, 0x4C, 0x46]
  class_code : Identity.blockByte headers.block 4 = headers.addressClass.code
  order_code : Identity.blockByte headers.block 5 = headers.byteOrder.code
  header_fits : (FileHeader.struct headers.addressClass).Fits headers.header
  programHeaderCount_eq : headers.header .programHeaderCount = headers.programHeaders.length
  sectionHeaderCount_eq : headers.header .sectionHeaderCount = headers.sectionHeaders.length
  programTable_wellFormed :
    headers.programTable.WellFormed (Segment.struct headers.addressClass)
  sectionTable_wellFormed :
    headers.sectionTable.WellFormed (Section.struct headers.addressClass)

/-- The image has every encoding at its place. -/
structure HeldBy (headers : EncodedHeaders) (image : Image) : Prop where
  block_held : image.Holds 0 headers.block
  header_held :
    image.Holds 16
      ((FileHeader.struct headers.addressClass).encode headers.byteOrder headers.header)
  programTable_held :
    headers.programTable.HeldBy (Segment.struct headers.addressClass) image headers.byteOrder
  sectionTable_held :
    headers.sectionTable.HeldBy (Section.struct headers.addressClass) image headers.byteOrder

/-- Both tables end inside the image, their last entries with all declared bytes. -/
def EndsInside (headers : EncodedHeaders) (image : Image) : Prop :=
  headers.programTable.EndsInside image ∧ headers.sectionTable.EndsInside image

end EncodedHeaders

namespace Dump

/-- The dump has the values of the headers, in table order; the names of sections are left open. -/
structure Carries (dump : Dump) (headers : EncodedHeaders) : Prop where
  identity_eq :
    dump.identity = Identity.ofBlock headers.addressClass headers.byteOrder headers.block
  header_eq : dump.header = FileHeader.ofFields fun name => (headers.header name : Int)
  segments_eq :
    dump.segments =
      headers.programTable.decoded.mapIdx fun index value => Segment.ofFields index value
  sections_eq :
    dump.sections.map Section.unnamed =
      headers.sectionTable.decoded.mapIdx fun index value => Section.ofFields index value

/-- Neither header table has been given up. -/
def KeepsTables (dump : Dump) : Prop :=
  ∀ marker ∈ dump.warnings,
    marker.field ≠ "program_headers" ∧ marker.field ≠ "section_headers"

/-- The headers of a dump, to be written again. -/
def encodedHeaders (dump : Dump) : EncodedHeaders :=
  { addressClass := dump.identity.addressClass
    byteOrder := dump.identity.byteOrder
    block := dump.identity.ident
    header := fun name => (dump.header.field name).toNat
    programHeaders := dump.segments.map fun segment name => (segment.field name).toNat
    sectionHeaders := dump.sections.map fun header name => (header.field name).toNat }

variable {image : Image} {path : String} {identity : Identity} {header : FileHeader}

/-! ## Tables that are kept -/

theorem keepsTables_iff (header_nonneg : ∀ name, 0 ≤ header.field name) :
    (ofHeader image path identity header).KeepsTables ↔
      header.programHeaders.fault? (Segment.layout identity.addressClass).size image.size = none ∧
        header.sectionHeaders.fault? (Section.layout identity.addressClass).size image.size =
          none := by
  simp only [KeepsTables, ofHeader,
    Segment.decodeTable_eq image identity (header_nonneg .programHeaderOffset),
    Section.decodeTable_eq image identity (header_nonneg .sectionHeaderOffset),
    Fault.trace?_outcome]
  constructor
  · intro keeps
    constructor
    · cases fault_eq : header.programHeaders.fault? (Segment.layout identity.addressClass).size
          image.size with
      | none => rfl
      | some fault =>
          have kept := keeps (fault.marker "program_headers") (by simp [fault_eq])
          exact absurd rfl kept.1
    · cases fault_eq : header.sectionHeaders.fault? (Section.layout identity.addressClass).size
          image.size with
      | none => rfl
      | some fault =>
          have kept := keeps (fault.marker "section_headers") (by simp [fault_eq])
          exact absurd rfl kept.2
  · rintro ⟨program_fault, section_fault⟩ marker member
    rw [program_fault, section_fault] at member
    obtain ⟨fault, _, rfl⟩ := Fault.mem_trace? (by simpa using member)
    simp [Fault.marker]

theorem segments_of_keeps (header_nonneg : ∀ name, 0 ≤ header.field name)
    (keeps : (ofHeader image path identity header).KeepsTables) :
    (ofHeader image path identity header).segments =
      (header.programHeaders.values (Segment.layout identity.addressClass) image
        identity.byteOrder).mapIdx fun index value => Segment.ofFields index value := by
  simp only [ofHeader, Segment.decodeTable_eq image identity (header_nonneg .programHeaderOffset)]
  exact Fault.entries_outcome ((keepsTables_iff header_nonneg).mp keeps).1

theorem sections_of_keeps (header_nonneg : ∀ name, 0 ≤ header.field name)
    (keeps : (ofHeader image path identity header).KeepsTables) :
    (ofHeader image path identity header).sections.map Section.unnamed =
      (header.sectionHeaders.values (Section.layout identity.addressClass) image
        identity.byteOrder).mapIdx fun index value => Section.ofFields index value := by
  simp only [ofHeader, map_unnamed_namedSections,
    Section.decodeTable_eq image identity (header_nonneg .sectionHeaderOffset)]
  exact Fault.entries_outcome ((keepsTables_iff header_nonneg).mp keeps).2

/-! ## From headers to the dump -/

section Writing

variable {headers : EncodedHeaders}

theorem identity_of_held (wellFormed : headers.WellFormed) (held : headers.HeldBy image) :
    Identity.decode image =
      .ok (Identity.ofBlock headers.addressClass headers.byteOrder headers.block) := by
  have nonempty : headers.block ≠ [] := by
    intro empty
    have length_eq := wellFormed.block_length
    rw [empty] at length_eq
    contradiction
  have inside := held.block_held.length_le nonempty
  have block_eq := Image.holds_iff_slice.mp held.block_held
  rw [wellFormed.block_length] at inside block_eq
  have class_eq := Image.blockByte_slice image (by omega : 4 < 16)
  have order_eq := Image.blockByte_slice image (by omega : 5 < 16)
  rw [block_eq] at class_eq order_eq
  apply Identity.decode_eq_ok_iff.mpr
  refine ⟨⟨by omega, ?_⟩, ?_, ?_, ?_⟩
  · rw [← Identity.take_four_slice, block_eq, wellFormed.signature]
  · rw [← class_eq, wellFormed.class_code]
    rfl
  · rw [← order_eq, wellFormed.order_code]
    rfl
  · rw [block_eq]
    rfl

theorem fileHeader_of_held (wellFormed : headers.WellFormed) (held : headers.HeldBy image) :
    FileHeader.decode image
        (Identity.ofBlock headers.addressClass headers.byteOrder headers.block) =
      .ok (FileHeader.ofFields fun name => (headers.header name : Int)) := by
  obtain ⟨inside, values_eq⟩ : ((0 : Nat) : Int) +
        ((FileHeader.struct headers.addressClass).layout 16).size ≤ image.size ∧
      ((FileHeader.struct headers.addressClass).layout 16).valueAt image headers.byteOrder
        ((0 : Nat) : Int) = fun name => (headers.header name : Int) :=
    (Struct.holds_encode_iff wellFormed.header_fits).mp (by simpa using held.header_held)
  rw [← FileHeader.layout_eq] at inside values_eq
  rw [Int.natCast_zero, Int.zero_add, FileHeader.layout_size] at inside
  exact FileHeader.decode_eq_ok_iff.mpr ⟨inside, congrArg FileHeader.ofFields values_eq.symm⟩

/-- An image that holds the encoding of some headers has a dump.  Both tables are kept exactly if
they end inside the image, and then the dump has the values of the headers. -/
theorem decode_of_held (wellFormed : headers.WellFormed) (held : headers.HeldBy image) :
    ∃ dump, decode image path = .ok dump ∧
      (dump.KeepsTables ↔ headers.EndsInside image) ∧
        (headers.EndsInside image → dump.Carries headers) := by
  have identity_eq := identity_of_held wellFormed held
  have header_eq := fileHeader_of_held wellFormed held
  have header_nonneg := FileHeader.field_nonneg header_eq
  have program_declared : (FileHeader.ofFields fun name =>
      (headers.header name : Int)).programHeaders =
        headers.programTable.declared "program header" := by
    simp only [FileHeader.programHeaders, FileHeader.ofFields, wellFormed.programHeaderCount_eq]
    rfl
  have section_declared : (FileHeader.ofFields fun name =>
      (headers.header name : Int)).sectionHeaders =
        headers.sectionTable.declared "section header" := by
    simp only [FileHeader.sectionHeaders, FileHeader.ofFields, wellFormed.sectionHeaderCount_eq]
    rfl
  have keeps_iff : (ofHeader image path
      (Identity.ofBlock headers.addressClass headers.byteOrder headers.block)
      (FileHeader.ofFields fun name => (headers.header name : Int))).KeepsTables ↔
        headers.EndsInside image := by
    rw [keepsTables_iff header_nonneg, program_declared, section_declared, Segment.layout_eq,
      Section.layout_eq, EncodedTable.fault?_declared_eq_none_iff,
      EncodedTable.fault?_declared_eq_none_iff]
    exact and_congr (and_iff_right wellFormed.programTable_wellFormed.size_le)
      (and_iff_right wellFormed.sectionTable_wellFormed.size_le)
  refine ⟨_, decode_eq_ok_iff.mpr ⟨_, _, identity_eq, header_eq, rfl⟩, keeps_iff, ?_⟩
  intro inside
  have keeps := keeps_iff.mpr inside
  refine ⟨rfl, rfl, ?_, ?_⟩
  · rw [segments_of_keeps header_nonneg keeps, program_declared, Segment.layout_eq]
    have read := (EncodedTable.heldBy_iff "program header" wellFormed.programTable_wellFormed
      inside.1).mp held.programTable_held
    exact congrArg (List.mapIdx fun index value => Segment.ofFields index value) read
  · rw [sections_of_keeps header_nonneg keeps, section_declared, Section.layout_eq]
    have read := (EncodedTable.heldBy_iff "section header" wellFormed.sectionTable_wellFormed
      inside.2).mp held.sectionTable_held
    exact congrArg (List.mapIdx fun index value => Section.ofFields index value) read

end Writing

/-! ## From the dump to headers -/

section Reading

theorem programTable_encodedHeaders (header_nonneg : ∀ name, 0 ≤ header.field name)
    (keeps : (ofHeader image path identity header).KeepsTables) :
    (ofHeader image path identity header).encodedHeaders.programTable =
      header.programHeaders.encoded (Segment.layout identity.addressClass) image
        identity.byteOrder := by
  have values_eq : (ofHeader image path identity header).segments.map
        (fun segment name => (segment.field name).toNat) =
      (header.programHeaders.encoded (Segment.layout identity.addressClass) image
        identity.byteOrder).values := by
    rw [segments_of_keeps header_nonneg keeps]
    apply List.ext_getElem?
    intro index
    simp [HeaderTable.encoded, Function.comp_def]
  simp only [EncodedHeaders.programTable, encodedHeaders, values_eq]
  rfl

theorem sectionTable_encodedHeaders (header_nonneg : ∀ name, 0 ≤ header.field name)
    (keeps : (ofHeader image path identity header).KeepsTables) :
    (ofHeader image path identity header).encodedHeaders.sectionTable =
      header.sectionHeaders.encoded (Section.layout identity.addressClass) image
        identity.byteOrder := by
  have values_eq : (ofHeader image path identity header).sections.map
        (fun found name => (found.field name).toNat) =
      (header.sectionHeaders.encoded (Section.layout identity.addressClass) image
        identity.byteOrder).values := by
    have unnamed_eq : (ofHeader image path identity header).sections.map
          (fun found name => (found.field name).toNat) =
        ((ofHeader image path identity header).sections.map Section.unnamed).map
          fun found name => (found.field name).toNat := by
      simp [Function.comp_def]
    rw [unnamed_eq, sections_of_keeps header_nonneg keeps]
    apply List.ext_getElem?
    intro index
    simp [HeaderTable.encoded, Function.comp_def]
  simp only [EncodedHeaders.sectionTable, encodedHeaders, values_eq]
  rfl

/-- The program headers of a dump that kept them, written again, are what the image stores. -/
theorem programTable_stored (header_nonneg : ∀ name, 0 ≤ header.field name)
    (keeps : (ofHeader image path identity header).KeepsTables) :
    (ofHeader image path identity header).encodedHeaders.programTable.Stored
        (Segment.struct identity.addressClass) image identity.byteOrder ∧
      ((ofHeader image path identity header).encodedHeaders.programTable.values.length : Int) =
          header.programHeaderCount ∧
        (ofHeader image path identity header).segments =
          (ofHeader image path identity header).encodedHeaders.programTable.decoded.mapIdx
            fun index value => Segment.ofFields index value := by
  have no_fault := ((keepsTables_iff header_nonneg).mp keeps).1
  have segments_eq := segments_of_keeps header_nonneg keeps
  rw [programTable_encodedHeaders header_nonneg keeps]
  refine ⟨?_, ?_, ?_⟩
  · rw [Segment.layout_eq] at no_fault ⊢
    exact HeaderTable.stored_of_no_fault image identity.byteOrder
      (header_nonneg .programHeaderOffset) (header_nonneg .programHeaderEntrySize)
      (header_nonneg .programHeaderCount) no_fault
  · exact HeaderTable.length_encoded _ _ _ (header_nonneg .programHeaderCount)
  · rw [segments_eq, HeaderTable.decoded_encoded]

/-- The section headers of a dump that kept them, written again, are what the image stores. -/
theorem sectionTable_stored (header_nonneg : ∀ name, 0 ≤ header.field name)
    (keeps : (ofHeader image path identity header).KeepsTables) :
    (ofHeader image path identity header).encodedHeaders.sectionTable.Stored
        (Section.struct identity.addressClass) image identity.byteOrder ∧
      ((ofHeader image path identity header).encodedHeaders.sectionTable.values.length : Int) =
          header.sectionHeaderCount ∧
        (ofHeader image path identity header).sections.map Section.unnamed =
          (ofHeader image path identity header).encodedHeaders.sectionTable.decoded.mapIdx
            fun index value => Section.ofFields index value := by
  have no_fault := ((keepsTables_iff header_nonneg).mp keeps).2
  have sections_eq := sections_of_keeps header_nonneg keeps
  rw [sectionTable_encodedHeaders header_nonneg keeps]
  refine ⟨?_, ?_, ?_⟩
  · rw [Section.layout_eq] at no_fault ⊢
    exact HeaderTable.stored_of_no_fault image identity.byteOrder
      (header_nonneg .sectionHeaderOffset) (header_nonneg .sectionHeaderEntrySize)
      (header_nonneg .sectionHeaderCount) no_fault
  · exact HeaderTable.length_encoded _ _ _ (header_nonneg .sectionHeaderCount)
  · rw [sections_eq, HeaderTable.decoded_encoded]

/-- A header that has been read from an image is held by it. -/
theorem fileHeader_held (header_eq : FileHeader.decode image identity = .ok header) :
    (FileHeader.struct identity.addressClass).Fits (fun name => (header.field name).toNat) ∧
      image.Holds 16 ((FileHeader.struct identity.addressClass).encode identity.byteOrder
        fun name => (header.field name).toNat) := by
  obtain ⟨inside, rfl⟩ := FileHeader.decode_eq_ok_iff.mp header_eq
  rw [← FileHeader.layout_size, FileHeader.layout_eq] at inside
  have layout_inside : ((0 : Nat) : Int) +
      ((FileHeader.struct identity.addressClass).layout 16).size ≤ image.size := by omega
  have fits : (FileHeader.struct identity.addressClass).Fits
      fun name => ((FileHeader.ofFields (FileHeader.values image identity)).field name).toNat := by
    rw [FileHeader.field_ofFields, FileHeader.values, FileHeader.layout_eq]
    exact Struct.fits_valueAt layout_inside
  have held : image.Holds (0 + 16)
      ((FileHeader.struct identity.addressClass).encode identity.byteOrder fun name =>
        ((FileHeader.ofFields (FileHeader.values image identity)).field name).toNat) := by
    refine (Struct.holds_encode_iff fits).mpr ⟨layout_inside, ?_⟩
    funext name
    rw [FileHeader.field_ofFields, FileHeader.values, FileHeader.layout_eq]
    exact (Int.toNat_of_nonneg (Layout.valueAt_nonneg name)).symm
  exact ⟨fits, held⟩

/-- The headers of a dump that kept both tables are those that the image holds. -/
theorem held_of_decode {dump : Dump} (decoded : decode image path = .ok dump)
    (keeps : dump.KeepsTables) :
    dump.encodedHeaders.WellFormed ∧ dump.encodedHeaders.HeldBy image ∧
      dump.encodedHeaders.EndsInside image ∧ dump.Carries dump.encodedHeaders := by
  obtain ⟨identity, header, identity_ok, header_eq, rfl⟩ := decode_eq_ok_iff.mp decoded
  obtain ⟨identity_eq, block_length, signature, class_code, order_code, block_held⟩ :=
    Identity.block_of_decode identity_ok
  obtain ⟨header_fits, header_held⟩ := fileHeader_held header_eq
  have header_nonneg := FileHeader.field_nonneg header_eq
  obtain ⟨program_stored, program_count, segments_eq⟩ := programTable_stored header_nonneg keeps
  obtain ⟨section_stored, section_count, sections_eq⟩ := sectionTable_stored header_nonneg keeps
  refine ⟨?_, ?_, ⟨program_stored.inside, section_stored.inside⟩, ?_⟩
  · constructor
    · exact block_length
    · exact signature
    · exact class_code
    · exact order_code
    · exact header_fits
    · exact (congrArg Int.toNat program_count).symm
    · exact (congrArg Int.toNat section_count).symm
    · exact program_stored.wellFormed
    · exact section_stored.wellFormed
  · constructor
    · exact block_held
    · exact header_held
    · exact program_stored.held
    · exact section_stored.held
  · constructor
    · exact identity_eq
    · have field_eq : (fun name => ((header.field name).toNat : Int)) = header.field := by
        funext name
        exact Int.toNat_of_nonneg (header_nonneg name)
      simp only [encodedHeaders, ofHeader, field_eq, FileHeader.ofFields_field]
    · exact segments_eq
    · exact sections_eq

end Reading

/-- Decoding gives the headers that an image holds, unless a table is cut off; and writing the
headers of a dump again gives the bytes from which they came. -/
theorem decode_round_trip (image : Image) (path : String) :
    (∀ headers : EncodedHeaders, headers.WellFormed → headers.HeldBy image →
        ∃ dump, decode image path = .ok dump ∧
          (dump.KeepsTables ↔ headers.EndsInside image) ∧
            (headers.EndsInside image → dump.Carries headers)) ∧
      ∀ dump, decode image path = .ok dump → dump.KeepsTables →
        dump.encodedHeaders.WellFormed ∧ dump.encodedHeaders.HeldBy image ∧
          dump.encodedHeaders.EndsInside image ∧ dump.Carries dump.encodedHeaders :=
  ⟨fun _ wellFormed held => decode_of_held wellFormed held,
    fun _ decoded keeps => held_of_decode decoded keeps⟩

/-- The headers of the small image. -/
def smallHeaders : EncodedHeaders :=
  { addressClass := .bits32
    byteOrder := .little
    block := [0x7F, 0x45, 0x4C, 0x46, 1, 1, 1, 0, 0, 0, 0, 0, 0, 0, 0, 0]
    header := smallHeader
    programHeaders := [smallSegment]
    sectionHeaders := [smallSection] }

theorem decode_small :
    ∃ dump, decode (small 0) "" = .ok dump ∧ dump.KeepsTables ∧ dump.Carries smallHeaders ∧
      dump.encodedHeaders.HeldBy (small 0) := by
  have wellFormed : smallHeaders.WellFormed := by
    constructor <;> decide
  have held : smallHeaders.HeldBy (small 0) := by
    constructor <;> decide +kernel
  have inside : smallHeaders.EndsInside (small 0) := by
    constructor <;> decide +kernel
  obtain ⟨written, read⟩ := decode_round_trip (small 0) ""
  obtain ⟨dump, decoded, keeps_iff, carries⟩ := written smallHeaders wellFormed held
  have keeps := keeps_iff.mpr inside
  exact ⟨dump, decoded, keeps, carries inside, (read dump decoded keeps).2.1⟩

/-- Headers of a file whose only program header has one byte of padding. -/
def paddedHeaders : EncodedHeaders :=
  { addressClass := .bits64
    byteOrder := .little
    block := [0x7F, 0x45, 0x4C, 0x46, 2, 1, 1, 0, 0, 0, 0, 0, 0, 0, 0, 0]
    header := fun
      | .programHeaderOffset => 64
      | .programHeaderEntrySize => 57
      | .programHeaderCount => 1
      | .sectionHeaderEntrySize => 64
      | _ => 0
    programHeaders := [fun _ => 0]
    sectionHeaders := [] }

/-- The image of those headers without the padding. -/
def unpadded : Image :=
  Image.ofList
    (paddedHeaders.block ++
      (FileHeader.struct .bits64).encode .little paddedHeaders.header ++
      (Segment.struct .bits64).encode .little (fun _ => 0))

/-- A table whose last entry lacks only padding is given up, so holding the encodings is not
enough. -/
theorem not_carried_without_padding :
    ¬∀ (headers : EncodedHeaders) (image : Image), headers.WellFormed → headers.HeldBy image →
      ∃ dump, decode image "" = .ok dump ∧ dump.Carries headers := by
  intro carried
  have wellFormed : paddedHeaders.WellFormed := by
    constructor <;> decide
  have held : paddedHeaders.HeldBy unpadded := by
    constructor <;> decide +kernel
  obtain ⟨dump, decoded, carries⟩ := carried paddedHeaders unpadded wellFormed held
  have given_up : (match decode unpadded "" with
      | .ok dump => dump.segments.length
      | .error _ => 0) = 0 := by
    decide +kernel
  rw [decoded] at given_up
  have no_segments : dump.segments.length = 0 := given_up
  have one_entry : paddedHeaders.programTable.decoded.length = 1 := rfl
  have same_length := congrArg List.length carries.segments_eq
  rw [no_segments, List.length_mapIdx, one_entry] at same_length
  exact absurd same_length Nat.zero_ne_one

end Dump

end ElfInspect

import ElfInspect.Proofs.Bytes.Struct
import ElfInspect.Proofs.Table
import ElfInspect.Section
import ElfInspect.Segment

/-!
# What the headers of an image decode to

The identification block, the file header and the two header tables are records of the format.  For
each there is the declaration of its members, and one statement of what decoding it gives.
-/

namespace ElfInspect

theorem AddressClass.ofCode?_eq_some_iff {code : Int} {addressClass : AddressClass} :
    AddressClass.ofCode? code = some addressClass ↔ code = addressClass.code := by
  cases addressClass <;> grind [AddressClass.ofCode?, AddressClass.code]

theorem AddressClass.ofCode?_eq_none_iff {code : Int} :
    AddressClass.ofCode? code = none ↔ code ≠ 1 ∧ code ≠ 2 := by
  grind [AddressClass.ofCode?]

theorem ByteOrder.ofCode?_eq_some_iff {code : Int} {order : ByteOrder} :
    ByteOrder.ofCode? code = some order ↔ code = order.code := by
  cases order <;> grind [ByteOrder.ofCode?, ByteOrder.code]

theorem ByteOrder.ofCode?_eq_none_iff {code : Int} :
    ByteOrder.ofCode? code = none ↔ code ≠ 1 ∧ code ≠ 2 := by
  grind [ByteOrder.ofCode?]

/-! ## Identification -/

namespace Image

/-- The number at a place, zero behind the end. -/
def byteAt (image : Image) (place : Nat) : Nat := (image.toList.getD place 0).toNat

/-- The image starts with an identification block that has the signature of the format. -/
def HasSignature (image : Image) : Prop :=
  16 ≤ image.size ∧ image.toList.take 4 = [0x7F, 0x45, 0x4C, 0x46]

instance (image : Image) : Decidable image.HasSignature :=
  inferInstanceAs (Decidable (_ ∧ _))

theorem blockByte_slice (image : Image) {place : Nat} (place_lt : place < 16) :
    Identity.blockByte (image.slice 0 16) place = image.byteAt place := by
  rw [Identity.blockByte, byteAt, List.getD_eq_getElem?_getD, List.getD_eq_getElem?_getD,
    getElem?_slice, Nat.zero_add, if_pos place_lt]

end Image

namespace Identity

/-- The identity that a block of identification declares. -/
def ofBlock (addressClass : AddressClass) (byteOrder : ByteOrder) (block : List UInt8) : Identity :=
  { addressClass := addressClass
    byteOrder := byteOrder
    abiVersion := blockByte block 8
    version := blockByte block 6
    osAbi := blockByte block 7
    ident := block }

theorem take_four_slice (image : Image) : (image.slice 0 16).take 4 = image.toList.take 4 := by
  rw [Image.slice_eq, List.drop_zero, List.take_take]
  rfl

theorem decode_of_not_hasSignature {image : Image} (unsigned : ¬image.HasSignature) :
    Identity.decode image = .error (.shortIdentification image.size) ∨
      Identity.decode image = .error (.badMagic (image.toList.take 4)) := by
  unfold Identity.decode
  by_cases short : image.size < 16
  · left
    have block_short : (image.slice 0 blockSize).length < blockSize := by
      rw [Image.slice_eq, List.drop_zero, List.length_take, Image.length_toList, blockSize]
      omega
    simp only [if_pos block_short]
  · right
    have block_full : ¬(image.slice 0 blockSize).length < blockSize := by
      rw [Image.length_slice (by rw [blockSize]; omega)]
      simp
    have other_magic : (image.slice 0 blockSize).take 4 ≠ signature := by
      intro same_magic
      rw [blockSize, take_four_slice] at same_magic
      exact unsigned ⟨by omega, same_magic⟩
    simp only [if_neg block_full, if_pos other_magic]
    rw [blockSize, take_four_slice]

theorem decode_of_hasSignature {image : Image} (signed : image.HasSignature) :
    Identity.decode image =
      match AddressClass.ofCode? (image.byteAt 4), ByteOrder.ofCode? (image.byteAt 5) with
      | none, _ => .error (.unsupportedClass (image.byteAt 4))
      | some _, none => .error (.unsupportedEncoding (image.byteAt 5))
      | some addressClass, some byteOrder =>
          .ok (ofBlock addressClass byteOrder (image.slice 0 16)) := by
  have block_full : ¬(image.slice 0 blockSize).length < blockSize := by
    rw [blockSize, Image.length_slice signed.1]
    omega
  have same_magic : ¬(image.slice 0 blockSize).take 4 ≠ signature := by
    rw [blockSize, take_four_slice]
    exact fun other_magic => other_magic signed.2
  unfold Identity.decode
  simp only [if_neg block_full, if_neg same_magic]
  rw [blockSize, Image.blockByte_slice image (by omega : 4 < 16),
    Image.blockByte_slice image (by omega : 5 < 16)]
  rfl

theorem decode_eq_ok_iff {image : Image} {identity : Identity} :
    Identity.decode image = .ok identity ↔
      image.HasSignature ∧ image.byteAt 4 = identity.addressClass.code ∧
        image.byteAt 5 = identity.byteOrder.code ∧
        identity = ofBlock identity.addressClass identity.byteOrder (image.slice 0 16) := by
  by_cases signed : image.HasSignature
  · rw [decode_of_hasSignature signed]
    constructor
    · intro decoded
      split at decoded
      · contradiction
      · contradiction
      · rename_i addressClass byteOrder class_eq order_eq
        obtain rfl := Except.ok.inj decoded
        exact ⟨signed, by exact_mod_cast AddressClass.ofCode?_eq_some_iff.mp class_eq,
          by exact_mod_cast ByteOrder.ofCode?_eq_some_iff.mp order_eq, rfl⟩
    · rintro ⟨_, class_eq, order_eq, identity_eq⟩
      rw [class_eq, order_eq, AddressClass.ofCode?_code, ByteOrder.ofCode?_code]
      exact congrArg Except.ok identity_eq.symm
  · constructor
    · intro decoded
      rcases decode_of_not_hasSignature signed with failed | failed <;>
        rw [failed] at decoded <;> contradiction
    · exact fun decoded => absurd decoded.1 signed

/-- The block of an identity that has been decoded stands at the start of the image. -/
theorem block_of_decode {image : Image} {identity : Identity}
    (decoded : Identity.decode image = .ok identity) :
    identity = ofBlock identity.addressClass identity.byteOrder identity.ident ∧
      identity.ident.length = 16 ∧ identity.ident.take 4 = [0x7F, 0x45, 0x4C, 0x46] ∧
        blockByte identity.ident 4 = identity.addressClass.code ∧
          blockByte identity.ident 5 = identity.byteOrder.code ∧
            image.Holds 0 identity.ident := by
  obtain ⟨signed, class_eq, order_eq, identity_eq⟩ := decode_eq_ok_iff.mp decoded
  have block_eq : identity.ident = image.slice 0 16 := congrArg ident identity_eq
  have block_length : (image.slice 0 16).length = 16 := Image.length_slice signed.1
  rw [block_eq]
  refine ⟨identity_eq, block_length, ?_, ?_, ?_, ?_⟩
  · rw [take_four_slice, signed.2]
  · rw [Image.blockByte_slice image (by omega), class_eq]
  · rw [Image.blockByte_slice image (by omega), order_eq]
  · rw [Image.holds_iff_slice, block_length]

/-- The identity depends on the identification block alone. -/
theorem decode_congr {left right : Image} {identity : Identity}
    (agree : left.AgreeOn right ⟨0, 16⟩) (inside : 16 ≤ right.size)
    (decoded : Identity.decode left = .ok identity) : Identity.decode right = .ok identity := by
  obtain ⟨signed, class_eq, order_eq, identity_eq⟩ := decode_eq_ok_iff.mp decoded
  have same_block : left.slice 0 16 = right.slice 0 16 :=
    agree.slice_eq (Int.le_refl 0) (Int.le_refl 16)
  have right_signed : right.HasSignature := by
    refine ⟨inside, ?_⟩
    rw [← take_four_slice, ← same_block, take_four_slice]
    exact signed.2
  rw [← Image.blockByte_slice left (by omega), same_block,
    Image.blockByte_slice right (by omega)] at class_eq order_eq
  rw [same_block] at identity_eq
  exact decode_eq_ok_iff.mpr ⟨right_signed, class_eq, order_eq, identity_eq⟩

end Identity

/-! ## File header -/

namespace FileHeader

/-- The members of the file header behind the identification block. -/
def struct (addressClass : AddressClass) : Struct FieldName where
  members :=
    [(.objectType, 2), (.machine, 2), (.version, 4), (.entryPoint, addressClass.bytes),
      (.programHeaderOffset, addressClass.bytes), (.sectionHeaderOffset, addressClass.bytes),
      (.flags, 4), (.headerSize, 2), (.programHeaderEntrySize, 2), (.programHeaderCount, 2),
      (.sectionHeaderEntrySize, 2), (.sectionHeaderCount, 2), (.sectionNameStringTableIndex, 2)]
  members_ne_nil := by simp
  supported := by cases addressClass <;> decide
  nodup := by cases addressClass <;> decide
  complete := by
    intro name
    cases name <;> simp

theorem layout_eq (addressClass : AddressClass) :
    layout addressClass = (struct addressClass).layout 16 := by
  cases addressClass <;> rfl

theorem layout_sound (addressClass : AddressClass) : (layout addressClass).Sound :=
  layout_eq addressClass ▸ Struct.layout_sound

/-- The range of the identification block and the file header. -/
def extent (addressClass : AddressClass) : Extent :=
  { start := 0
    size :=
      match addressClass with
      | .bits32 => 52
      | .bits64 => 64 }

theorem layout_size (addressClass : AddressClass) :
    (layout addressClass).size = (extent addressClass).size := by
  cases addressClass <;> rfl

/-- The values of the fields in an image. -/
def values (image : Image) (identity : Identity) : FieldName → Int :=
  (layout identity.addressClass).valueAt image identity.byteOrder 0

theorem decode_eq (image : Image) (identity : Identity) :
    decode image identity =
      if (extent identity.addressClass).size ≤ image.size then
        .ok (ofFields (values image identity))
      else
        .error (.truncatedHeader identity.addressClass (extent identity.addressClass).size
          image.size) := by
  have sound := layout_sound identity.addressClass
  simp only [decode, ← layout_size]
  by_cases inside : (layout identity.addressClass).size ≤ image.size
  · rw [if_pos inside, Layout.read_of_inside sound (Int.le_refl 0) (by omega)]
    simp only [Layout.get_fill]
    rfl
  · rw [if_neg inside]
    split
    · rename_i record read_eq
      have read_inside := Layout.inside_of_read sound read_eq
      omega
    · rfl

theorem decode_eq_ok_iff {image : Image} {identity : Identity} {header : FileHeader} :
    decode image identity = .ok header ↔
      (extent identity.addressClass).size ≤ image.size ∧
        header = ofFields (values image identity) := by
  rw [decode_eq]
  split
  · rename_i inside
    constructor
    · intro decoded
      exact ⟨inside, (Except.ok.inj decoded).symm⟩
    · rintro ⟨_, rfl⟩
      rfl
  · rename_i outside
    constructor
    · intro decoded
      contradiction
    · exact fun decoded => absurd decoded.1 outside

/-- The file header depends on its own range alone. -/
theorem decode_congr {left right : Image} {identity : Identity} {header : FileHeader}
    (agree : left.AgreeOn right (extent identity.addressClass))
    (inside : (extent identity.addressClass).size ≤ right.size)
    (decoded : decode left identity = .ok header) : decode right identity = .ok header := by
  obtain ⟨_, rfl⟩ := decode_eq_ok_iff.mp decoded
  have same_values : values left identity = values right identity := by
    apply Layout.valueAt_congr agree (layout_sound _) (Int.le_refl 0) (Int.le_refl 0)
    rw [layout_size]
    exact Int.le_refl _
  exact decode_eq_ok_iff.mpr ⟨inside, by rw [same_values]⟩

theorem field_nonneg {image : Image} {identity : Identity} {header : FileHeader}
    (decoded : decode image identity = .ok header) (name : FieldName) : 0 ≤ header.field name := by
  obtain ⟨_, rfl⟩ := decode_eq_ok_iff.mp decoded
  rw [field_ofFields]
  exact Layout.valueAt_nonneg name

end FileHeader

/-! ## Header tables -/

/-- There is no fault in a table whose entries have room for their record and end inside the
data. -/
theorem Table.fault?_layout_eq_none_iff {ι : Type} {struct : Struct ι} {table : String}
    {length offset entrySize count : Int} :
    fault? table (struct.layout 0).size length offset entrySize count = none ↔
      struct.size ≤ entrySize ∧ offset + entrySize * count ≤ length := by
  have size_pos := struct.size_pos
  rw [fault?_eq_none_iff, Struct.layout_size, Int.natCast_zero, Int.zero_add]
  constructor
  · exact fun ⟨_, size_le, inside⟩ => ⟨size_le, inside⟩
  · exact fun ⟨size_le, inside⟩ => ⟨by omega, size_le, inside⟩

namespace Segment

/-- The members of a program header. -/
def struct : AddressClass → Struct FieldName
  | .bits32 =>
      { members :=
          [(.segmentType, 4), (.fileOffset, 4), (.virtualAddress, 4), (.physicalAddress, 4),
            (.fileSize, 4), (.memorySize, 4), (.flags, 4), (.alignment, 4)]
        members_ne_nil := by simp
        supported := by decide
        nodup := by decide
        complete := by
          intro name
          cases name <;> simp }
  | .bits64 =>
      { members :=
          [(.segmentType, 4), (.flags, 4), (.fileOffset, 8), (.virtualAddress, 8),
            (.physicalAddress, 8), (.fileSize, 8), (.memorySize, 8), (.alignment, 8)]
        members_ne_nil := by simp
        supported := by decide
        nodup := by decide
        complete := by
          intro name
          cases name <;> simp }

theorem layout_eq (addressClass : AddressClass) :
    layout addressClass = (struct addressClass).layout 0 := by
  cases addressClass <;> rfl

theorem layout_sound (addressClass : AddressClass) : (layout addressClass).Sound :=
  layout_eq addressClass ▸ Struct.layout_sound

/-- The outcome of decoding the program header table. -/
theorem decodeTable_eq (image : Image) {header : FileHeader} (identity : Identity)
    (offset_nonneg : 0 ≤ header.programHeaderOffset) :
    decodeTable image header identity =
      Fault.outcome (header.programHeaders.fault? (layout identity.addressClass).size image.size)
        ((header.programHeaders.values (layout identity.addressClass) image
          identity.byteOrder).mapIdx fun index value => ofFields index value) :=
  HeaderTable.decode_eq ofFields _ _ (layout_sound _) offset_nonneg

theorem kind_of_decodeTable {image : Image} {header : FileHeader} {identity : Identity}
    (offset_nonneg : 0 ≤ header.programHeaderOffset) {fault : Fault}
    (failed : decodeTable image header identity = .error fault) :
    fault.kind ∈ Fault.recoverable := by
  rw [decodeTable_eq image identity offset_nonneg] at failed
  exact HeaderTable.kind_of_fault? (Fault.eq_some_of_outcome failed)

theorem decodeTable_congr {left right : Image} {header : FileHeader} (identity : Identity)
    (offset_nonneg : 0 ≤ header.programHeaderOffset) (same_size : left.size = right.size)
    (agree : left.AgreeOn right header.programHeaders.extent) :
    decodeTable left header identity = decodeTable right header identity := by
  rw [decodeTable_eq left identity offset_nonneg, decodeTable_eq right identity offset_nonneg]
  exact HeaderTable.outcome_congr (List.mapIdx fun index value => ofFields index value)
    (layout_sound _) offset_nonneg same_size agree

theorem decodeTable_cut {short long : Image} {header : FileHeader} (identity : Identity)
    (offset_nonneg : 0 ≤ header.programHeaderOffset) (cut : short.toList <+: long.toList) :
    Fault.CutFrom (decodeTable short header identity) (decodeTable long header identity) := by
  rw [decodeTable_eq short identity offset_nonneg, decodeTable_eq long identity offset_nonneg]
  exact HeaderTable.outcome_cut (List.mapIdx fun index value => ofFields index value)
    (layout_sound _) offset_nonneg cut

end Segment

namespace Section

/-- The members of a section header. -/
def struct (addressClass : AddressClass) : Struct FieldName where
  members :=
    [(.nameOffset, 4), (.sectionType, 4), (.flags, addressClass.bytes),
      (.address, addressClass.bytes), (.fileOffset, addressClass.bytes),
      (.size, addressClass.bytes), (.link, 4), (.info, 4),
      (.addressAlignment, addressClass.bytes), (.entrySize, addressClass.bytes)]
  members_ne_nil := by simp
  supported := by cases addressClass <;> decide
  nodup := by cases addressClass <;> decide
  complete := by
    intro name
    cases name <;> simp

theorem layout_eq (addressClass : AddressClass) :
    layout addressClass = (struct addressClass).layout 0 := by
  cases addressClass <;> rfl

theorem layout_sound (addressClass : AddressClass) : (layout addressClass).Sound :=
  layout_eq addressClass ▸ Struct.layout_sound

/-- The outcome of decoding the section header table. -/
theorem decodeTable_eq (image : Image) {header : FileHeader} (identity : Identity)
    (offset_nonneg : 0 ≤ header.sectionHeaderOffset) :
    decodeTable image header identity =
      Fault.outcome (header.sectionHeaders.fault? (layout identity.addressClass).size image.size)
        ((header.sectionHeaders.values (layout identity.addressClass) image
          identity.byteOrder).mapIdx fun index value => ofFields index value) :=
  HeaderTable.decode_eq ofFields _ _ (layout_sound _) offset_nonneg

theorem kind_of_decodeTable {image : Image} {header : FileHeader} {identity : Identity}
    (offset_nonneg : 0 ≤ header.sectionHeaderOffset) {fault : Fault}
    (failed : decodeTable image header identity = .error fault) :
    fault.kind ∈ Fault.recoverable := by
  rw [decodeTable_eq image identity offset_nonneg] at failed
  exact HeaderTable.kind_of_fault? (Fault.eq_some_of_outcome failed)

theorem decodeTable_congr {left right : Image} {header : FileHeader} (identity : Identity)
    (offset_nonneg : 0 ≤ header.sectionHeaderOffset) (same_size : left.size = right.size)
    (agree : left.AgreeOn right header.sectionHeaders.extent) :
    decodeTable left header identity = decodeTable right header identity := by
  rw [decodeTable_eq left identity offset_nonneg, decodeTable_eq right identity offset_nonneg]
  exact HeaderTable.outcome_congr (List.mapIdx fun index value => ofFields index value)
    (layout_sound _) offset_nonneg same_size agree

theorem decodeTable_cut {short long : Image} {header : FileHeader} (identity : Identity)
    (offset_nonneg : 0 ≤ header.sectionHeaderOffset) (cut : short.toList <+: long.toList) :
    Fault.CutFrom (decodeTable short header identity) (decodeTable long header identity) := by
  rw [decodeTable_eq short identity offset_nonneg, decodeTable_eq long identity offset_nonneg]
  exact HeaderTable.outcome_cut (List.mapIdx fun index value => ofFields index value)
    (layout_sound _) offset_nonneg cut

theorem field_nonneg {image : Image} {header : FileHeader} {identity : Identity}
    (offset_nonneg : 0 ≤ header.sectionHeaderOffset) {found : Section}
    (member : found ∈ Fault.entries (decodeTable image header identity)) (name : FieldName) :
    0 ≤ found.field name := by
  rw [decodeTable_eq image identity offset_nonneg] at member
  cases fault_eq : header.sectionHeaders.fault? (layout identity.addressClass).size image.size with
  | some fault =>
      rw [fault_eq] at member
      contradiction
  | none =>
      rw [fault_eq] at member
      obtain ⟨index, inside, rfl⟩ := List.mem_mapIdx.mp member
      rw [field_ofFields]
      exact Table.values_nonneg (List.getElem_mem inside) name

end Section
end ElfInspect

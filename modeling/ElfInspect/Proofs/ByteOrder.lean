import ElfInspect.Proofs.Bytes.Order
import ElfInspect.Proofs.DynamicEntry
import ElfInspect.Proofs.Symbol

/-!
# Decoding in the other byte order

Every decoder is told the byte order by the identity.  In the other order it meets the same faults
and finds the same number of entries, and each multi-byte field has the same bytes from the back.
-/

namespace ElfInspect

/-- The width of a member of a record. -/
def Struct.width {ι : Type} [DecidableEq ι] (struct : Struct ι) (name : ι) : Nat :=
  (struct.members.lookup name).getD 0

/-- The identity of the same file in the other byte order. -/
def Identity.otherOrder (identity : Identity) : Identity :=
  { identity with byteOrder := identity.byteOrder.other }

namespace HeaderTable

variable {ι : Type} [DecidableEq ι] {layout : Layout ι} {width : ι → Nat}

theorem readEntry_other (table : HeaderTable)
    (widths : ∀ field ∈ layout, field.width = width field.name) (image : Image)
    (order : ByteOrder) (index : Nat) :
    Alike (fun record other => Layout.Reverses width (Record.get record) (Record.get other))
      (table.readEntry layout image order index)
      (table.readEntry layout image order.other index) := by
  simp only [readEntry]
  split
  · exact .failed _
  · exact Layout.read_other widths image order _

theorem read_other (table : HeaderTable)
    (widths : ∀ field ∈ layout, field.width = width field.name) (image : Image)
    (order : ByteOrder) :
    Alike
      (List.Forall₂ fun record other =>
        Layout.Reverses width (Record.get record) (Record.get other))
      (table.read layout image order) (table.read layout image order.other) := by
  unfold read
  split
  · exact .decoded .nil
  · exact .after _ (.after _ (Table.collect_alike _ (table.readEntry_other widths image order)))

end HeaderTable

/-! ## File header and header tables -/

namespace FileHeader

theorem width_layout (addressClass : AddressClass) :
    ∀ field ∈ layout addressClass, field.width = (struct addressClass).width field.name := by
  cases addressClass <;> decide

theorem decode_other (image : Image) (identity : Identity) :
    Alike
      (fun header other =>
        Layout.Reverses (struct identity.addressClass).width header.field other.field)
      (decode image identity) (decode image identity.otherOrder) := by
  have read := Layout.read_other (width_layout identity.addressClass) image identity.byteOrder 0
  simp only [decode, Identity.otherOrder]
  generalize (layout identity.addressClass).read image identity.byteOrder 0 = outcome,
    (layout identity.addressClass).read image identity.byteOrder.other 0 = other at read
  cases read with
  | failed fault => exact .failed _
  | decoded reverses =>
      apply Alike.decoded
      rw [field_ofFields, field_ofFields]
      exact reverses

end FileHeader

namespace Segment

theorem width_layout (addressClass : AddressClass) :
    ∀ field ∈ layout addressClass, field.width = (struct addressClass).width field.name := by
  cases addressClass <;> decide

/-- Two segments at one place whose fields have the same bytes from the back. -/
def Reverses (addressClass : AddressClass) (segment other : Segment) : Prop :=
  other.index = segment.index ∧
    Layout.Reverses (struct addressClass).width segment.field other.field

theorem decodeTable_other (image : Image) (header : FileHeader) (identity : Identity) :
    Alike (List.Forall₂ (Reverses identity.addressClass)) (decodeTable image header identity)
      (decodeTable image header identity.otherOrder) := by
  apply (header.programHeaders.read_other (width_layout identity.addressClass) image
    identity.byteOrder).map
  intro records others related
  apply forall₂_mapIdx related
  intro index record other reverses
  refine ⟨rfl, ?_⟩
  rw [field_ofFields, field_ofFields]
  exact reverses

end Segment

namespace Section

theorem width_layout (addressClass : AddressClass) :
    ∀ field ∈ layout addressClass, field.width = (struct addressClass).width field.name := by
  cases addressClass <;> decide

/-- Two sections at one place, with one name, whose fields have the same bytes from the back. -/
def Reverses (addressClass : AddressClass) (header other : Section) : Prop :=
  other.index = header.index ∧ other.name = header.name ∧ other.nameError = header.nameError ∧
    Layout.Reverses (struct addressClass).width header.field other.field

theorem decodeTable_other (image : Image) (header : FileHeader) (identity : Identity) :
    Alike (List.Forall₂ (Reverses identity.addressClass)) (decodeTable image header identity)
      (decodeTable image header identity.otherOrder) := by
  apply (header.sectionHeaders.read_other (width_layout identity.addressClass) image
    identity.byteOrder).map
  intro records others related
  apply forall₂_mapIdx related
  intro index record other reverses
  refine ⟨rfl, rfl, rfl, ?_⟩
  rw [field_ofFields, field_ofFields]
  exact reverses

end Section

/-! ## Symbols and dynamic entries -/

namespace Symbol

/-- The width of a member of a symbol record. -/
def width (addressClass : AddressClass) : FieldName → Nat
  | .nameOffset => 4
  | .value => addressClass.bytes
  | .size => addressClass.bytes
  | .info => 1
  | .other => 1
  | .sectionIndex => 2

theorem width_layout (addressClass : AddressClass) :
    ∀ field ∈ layout addressClass, field.width = width addressClass field.name := by
  cases addressClass <;> decide

/-- Two symbols at one place: the words have the same bytes from the back, and what is packed into
single bytes is the same. -/
structure Reverses (addressClass : AddressClass) (symbol other : Symbol) : Prop where
  index_eq : other.index = symbol.index
  nameOffset : Word.Reverses 4 symbol.nameOffset other.nameOffset
  value : Word.Reverses addressClass.bytes symbol.value other.value
  size : Word.Reverses addressClass.bytes symbol.size other.size
  sectionIndex : Word.Reverses 2 symbol.sectionIndex other.sectionIndex
  binding_eq : other.binding = symbol.binding
  symbolType_eq : other.symbolType = symbol.symbolType
  visibility_eq : other.visibility = symbol.visibility

theorem reverses_ofFields {addressClass : AddressClass} {value other : FieldName → Int}
    (reverses : Layout.Reverses (width addressClass) value other) (index : Int)
    (strings : Except Fault StringTable) :
    Reverses addressClass (ofFields index strings value) (ofFields index strings other) := by
  have info_eq : other .info = value .info := (reverses .info).eq_of_one
  have other_eq : other .other = value .other := (reverses .other).eq_of_one
  exact
    { index_eq := rfl
      nameOffset := reverses .nameOffset
      value := reverses .value
      size := reverses .size
      sectionIndex := reverses .sectionIndex
      binding_eq := congrArg (· / 16) info_eq
      symbolType_eq := congrArg (· % 16) info_eq
      visibility_eq := congrArg (· % 4) other_eq }

theorem decodeSection_other (image : Image) (header : Section) (linked : Option Section)
    (identity : Identity) :
    Alike (List.Forall₂ (Reverses identity.addressClass))
      (decodeSection image header linked identity)
      (decodeSection image header linked identity.otherOrder) := by
  apply Alike.after
  apply Alike.after
  apply Table.collect_alike
  intro index
  apply (Layout.read_other (width_layout identity.addressClass) image identity.byteOrder _).bind
  intro record other reverses
  exact .decoded (reverses_ofFields reverses index _)

end Symbol

namespace DynamicEntry

/-- Two entries whose tag and value have the same bytes from the back, the tag being signed. -/
def Reverses (addressClass : AddressClass) (entry other : DynamicEntry) : Prop :=
  Word.ReversesSigned addressClass.bytes entry.tag other.tag ∧
    Word.Reverses addressClass.bytes entry.value other.value

theorem decodeSection_other (image : Image) (header : Section) (linked : Option Section)
    (identity : Identity) :
    Alike (List.Forall₂ (Reverses identity.addressClass))
      (decodeSection image header linked identity)
      (decodeSection image header linked identity.otherOrder) := by
  simp only [decodeSection, Identity.otherOrder]
  split
  · exact .failed _
  · apply Table.collectUntil_alike
    · intro index
      apply (image.signed_other identity.byteOrder _ _).bind
      intro tag tagOther tag_reverses
      apply (image.unsigned_other identity.byteOrder _ _).bind
      intro value valueOther value_reverses
      apply Alike.decoded
      rw [Reverses, tag_ofWords, tag_ofWords, value_ofWords, value_ofWords]
      exact ⟨tag_reverses, value_reverses⟩
    -- Both tables end at the same entry, since the null tag is null in both orders.
    · intro entry other reverses
      exact decide_eq_decide.mpr reverses.1.eq_zero_iff

end DynamicEntry

/-- In the other byte order each decoder fails with the same fault, or finds as many entries with
the same bytes from the back in every field. -/
theorem alike_in_other_order (image : Image) (identity : Identity) :
    Alike
        (fun header other =>
          Layout.Reverses (FileHeader.struct identity.addressClass).width header.field other.field)
        (FileHeader.decode image identity) (FileHeader.decode image identity.otherOrder) ∧
      (∀ header : FileHeader,
        Alike (List.Forall₂ (Segment.Reverses identity.addressClass))
            (Segment.decodeTable image header identity)
            (Segment.decodeTable image header identity.otherOrder) ∧
          Alike (List.Forall₂ (Section.Reverses identity.addressClass))
            (Section.decodeTable image header identity)
            (Section.decodeTable image header identity.otherOrder)) ∧
      ∀ (header : Section) (linked : Option Section),
        Alike (List.Forall₂ (Symbol.Reverses identity.addressClass))
            (Symbol.decodeSection image header linked identity)
            (Symbol.decodeSection image header linked identity.otherOrder) ∧
          Alike (List.Forall₂ (DynamicEntry.Reverses identity.addressClass))
            (DynamicEntry.decodeSection image header linked identity)
            (DynamicEntry.decodeSection image header linked identity.otherOrder) :=
  ⟨FileHeader.decode_other image identity,
    fun header =>
      ⟨Segment.decodeTable_other image header identity,
        Section.decodeTable_other image header identity⟩,
    fun header linked =>
      ⟨Symbol.decodeSection_other image header linked identity,
        DynamicEntry.decodeSection_other image header linked identity⟩⟩

end ElfInspect

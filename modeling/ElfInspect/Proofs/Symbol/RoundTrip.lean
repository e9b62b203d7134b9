import ElfInspect.Proofs.EncodedTable
import ElfInspect.Proofs.Symbol

/-!
# Symbols survive a round trip

A section of symbols holds records at the stride that it declares, in the member order of its class.
Decoding gives one symbol for each record, and a decoded symbol is enough to write its record again
but for the upper six bits of `other`, which decoding drops.
-/

namespace ElfInspect

/-- The section has the place and stride of the table, and room for no more than its entries. -/
structure Section.Declares {ι : Type} (header : Section) (table : EncodedTable ι) : Prop where
  fileOffset_eq : header.fileOffset = table.offset
  entrySize_eq : header.entrySize = table.entrySize
  entries_le : (table.entrySize * table.values.length : Nat) ≤ header.size
  rest_lt : header.size < (table.entrySize * table.values.length + table.entrySize : Nat)

theorem Section.Declares.count_eq {ι : Type} {header : Section} {table : EncodedTable ι}
    (declares : header.Declares table) : header.size / header.entrySize = table.values.length := by
  have entries_le := declares.entries_le
  have rest_lt := declares.rest_lt
  have entrySize_pos : (0 : Int) < table.entrySize := by omega
  push_cast at entries_le rest_lt
  rw [declares.entrySize_eq]
  apply Int.le_antisymm
  · apply Int.le_of_lt_add_one
    apply Int.ediv_lt_of_lt_mul entrySize_pos
    rw [Int.add_mul, Int.one_mul, Int.mul_comm]
    exact rest_lt
  · apply Int.le_ediv_of_mul_le entrySize_pos
    rw [Int.mul_comm]
    exact entries_le

namespace Symbol

/-- The symbol stands for a record at an index; its name is left open. -/
structure StandsFor (symbol : Symbol) (index : Nat) (record : FieldName → Nat) : Prop where
  index_eq : symbol.index = index
  nameOffset_eq : symbol.nameOffset = record .nameOffset
  value_eq : symbol.value = record .value
  size_eq : symbol.size = record .size
  sectionIndex_eq : symbol.sectionIndex = record .sectionIndex
  info_eq : symbol.binding * 16 + symbol.symbolType = record .info
  symbolType_nonneg : 0 ≤ symbol.symbolType
  symbolType_lt : symbol.symbolType < 16
  visibility_eq : symbol.visibility = (record .other % 4 : Nat)

/-- There is one symbol for each record, in the same order. -/
def StandFor (symbols : List Symbol) (records : List (FieldName → Nat)) : Prop :=
  symbols.length = records.length ∧
    ∀ (index : Nat) (symbol : Symbol) (record : FieldName → Nat),
      symbols[index]? = some symbol → records[index]? = some record →
        symbol.StandsFor index record

/-- The record of a symbol, given the six bits that the symbol lacks. -/
def record (symbol : Symbol) (upper : Nat) : FieldName → Nat
  | .nameOffset => symbol.nameOffset.toNat
  | .value => symbol.value.toNat
  | .size => symbol.size.toNat
  | .info => (symbol.binding * 16 + symbol.symbolType).toNat
  | .other => symbol.visibility.toNat + 4 * upper
  | .sectionIndex => symbol.sectionIndex.toNat

/-- A table of symbols is the content of a section. -/
structure Stored (table : EncodedTable FieldName) (image : Image) (header : Section)
    (identity : Identity) : Prop where
  fits : ∀ record ∈ table.values, (struct identity.addressClass).Fits record
  size_le : (struct identity.addressClass).size ≤ table.entrySize
  declares : header.Declares table
  inside : table.offset + table.entrySize * table.values.length ≤ image.size
  held : table.HeldBy (struct identity.addressClass) image identity.byteOrder

section Writing

theorem standsFor_ofFields (index : Nat) (strings : Except Fault StringTable)
    (record : FieldName → Nat) :
    (ofFields index strings fun name => (record name : Int)).StandsFor index record := by
  constructor
  case info_eq =>
    simp only [ofFields]
    omega
  case symbolType_nonneg =>
    simp only [ofFields]
    omega
  case symbolType_lt =>
    simp only [ofFields]
    omega
  all_goals simp [ofFields]

/-- But for its name a symbol is settled by its record. -/
theorem StandsFor.unnamed_eq {left right : Symbol} {index : Nat} {record : FieldName → Nat}
    (left_for : left.StandsFor index record) (right_for : right.StandsFor index record) :
    left.unnamed = right.unnamed := by
  have left_info := left_for.info_eq
  have right_info := right_for.info_eq
  have left_nonneg := left_for.symbolType_nonneg
  have right_nonneg := right_for.symbolType_nonneg
  have left_lt := left_for.symbolType_lt
  have right_lt := right_for.symbolType_lt
  have same_binding : left.binding = right.binding := by omega
  have same_type : left.symbolType = right.symbolType := by omega
  simp only [unnamed, left_for.index_eq, right_for.index_eq, left_for.nameOffset_eq,
    right_for.nameOffset_eq, left_for.value_eq, right_for.value_eq, left_for.size_eq,
    right_for.size_eq, left_for.sectionIndex_eq, right_for.sectionIndex_eq,
    left_for.visibility_eq, right_for.visibility_eq, same_binding, same_type]

theorem StandFor.map_unnamed_eq {left right : List Symbol} {records : List (FieldName → Nat)}
    (left_for : StandFor left records) (right_for : StandFor right records) :
    left.map unnamed = right.map unnamed := by
  apply List.ext_getElem
  · rw [List.length_map, List.length_map, left_for.1, right_for.1]
  · intro index left_lt right_lt
    rw [List.length_map] at left_lt right_lt
    have record_lt : index < records.length := by
      rw [← left_for.1]
      exact left_lt
    rw [List.getElem_map, List.getElem_map]
    exact (left_for.2 index _ _ (List.getElem?_eq_getElem left_lt)
        (List.getElem?_eq_getElem record_lt)).unnamed_eq
      (right_for.2 index _ _ (List.getElem?_eq_getElem right_lt)
        (List.getElem?_eq_getElem record_lt))

variable {table : EncodedTable FieldName} {image : Image} {header : Section} {identity : Identity}

theorem values_of_stored (stored : Stored table image header identity) :
    values image header identity = table.decoded := by
  have wellFormed : table.WellFormed (struct identity.addressClass) :=
    ⟨stored.fits, fun _ => stored.size_le⟩
  have read := (EncodedTable.heldBy_iff "symbol" wellFormed fun _ => stored.inside).mp stored.held
  rw [values, stored.declares.count_eq, stored.declares.fileOffset_eq,
    stored.declares.entrySize_eq, layout_eq]
  exact read

theorem fault?_of_stored (stored : Stored table image header identity) :
    fault? header identity image.size = none := by
  have inside : ((table.offset + table.entrySize * table.values.length : Nat) : Int) ≤ image.size :=
    Int.ofNat_le.mpr stored.inside
  push_cast at inside
  rw [fault?_eq_none_iff, stored.declares.count_eq, stored.declares.fileOffset_eq,
    stored.declares.entrySize_eq]
  exact ⟨Int.ofNat_le.mpr stored.size_le, inside⟩

/-- Every record of a section is decoded, whatever the section links to. -/
theorem decodeSection_of_stored (linked : Option Section)
    (stored : Stored table image header identity) :
    ∃ symbols, decodeSection image header linked identity = .ok symbols ∧
      StandFor symbols table.values := by
  have offset_nonneg : 0 ≤ header.fileOffset := by
    rw [stored.declares.fileOffset_eq]
    exact Int.natCast_nonneg _
  rw [decodeSection_eq image linked identity offset_nonneg, fault?_of_stored stored,
    values_of_stored stored]
  refine ⟨_, rfl, by simp [EncodedTable.decoded], ?_⟩
  intro index symbol record symbol_eq record_eq
  rw [List.getElem?_mapIdx, EncodedTable.decoded, List.getElem?_map, record_eq] at symbol_eq
  obtain rfl := Option.some.inj symbol_eq
  exact standsFor_ofFields index _ record

end Writing

section Reading

variable {image : Image} {header : Section} {linked : Option Section} {identity : Identity}
  {symbols : List Symbol}

theorem start_nonneg_of_read {addressClass : AddressClass} {order : ByteOrder} {base : Int}
    {record : Record FieldName} (read : (layout addressClass).read image order base = .ok record) :
    0 ≤ base := by
  have first_mem : ⟨.nameOffset, 0, 4⟩ ∈ layout addressClass := by
    cases addressClass <;> exact List.mem_cons_self
  simpa using Layout.start_nonneg_of_read read first_mem

/-- A decoded symbol comes from a record inside the image. -/
theorem symbol_of_decodeSection
    (decoded : decodeSection image header linked identity = .ok symbols) :
    symbols.length = (header.size / header.entrySize).toNat ∧
      ∀ (index : Nat) (symbol : Symbol), symbols[index]? = some symbol →
        ∃ base : Nat, (base : Int) = header.fileOffset + index * header.entrySize ∧
          base + (layout identity.addressClass).size ≤ image.size ∧
            symbol = ofFields index (linkedStrings image header.link linked)
              ((layout identity.addressClass).valueAt image identity.byteOrder base) := by
  rw [decodeSection] at decoded
  simp only [Table.check_bind] at decoded
  split at decoded
  · contradiction
  · obtain ⟨length_eq, reads⟩ := Table.reads_of_collect decoded
    refine ⟨length_eq, ?_⟩
    intro index symbol symbol_eq
    have symbol_read := reads index symbol symbol_eq
    obtain ⟨base, base_eq⟩ :
        ∃ base, base = header.fileOffset + index * header.entrySize := ⟨_, rfl⟩
    rw [← base_eq] at symbol_read ⊢
    -- Nothing says that the section starts inside the image; only the read shows it.
    cases read : (layout identity.addressClass).read image identity.byteOrder base with
    | error fault =>
        rw [read] at symbol_read
        contradiction
    | ok record =>
        have base_nonneg := start_nonneg_of_read read
        have inside := Layout.inside_of_read (layout_sound _) read
        rw [Layout.read_of_inside (layout_sound _) base_nonneg inside] at symbol_read
        have base_cast := Int.toNat_of_nonneg base_nonneg
        refine ⟨base.toNat, base_cast, by rwa [base_cast], ?_⟩
        rw [base_cast, ← Layout.get_fill]
        exact (Except.ok.inj symbol_read).symm

/-- The record of a symbol, written again with the bits that were dropped, is the one that was
read. -/
theorem record_ofFields (index : Int) (strings : Except Fault StringTable) {value : FieldName → Int}
    (value_nonneg : ∀ name, 0 ≤ value name) :
    (ofFields index strings value).record ((value .other).toNat / 4) =
      fun name => (value name).toNat := by
  have other_nonneg := value_nonneg .other
  have info_nonneg := value_nonneg .info
  funext name
  cases name with
  | info =>
      simp only [record, ofFields]
      omega
  | other =>
      simp only [record, ofFields]
      omega
  | nameOffset => rfl
  | value => rfl
  | size => rfl
  | sectionIndex => rfl

/-- Every decoded symbol can be written again where it was read. -/
theorem held_of_decodeSection
    (decoded : decodeSection image header linked identity = .ok symbols) {index : Nat}
    {symbol : Symbol} (symbol_eq : symbols[index]? = some symbol) :
    ∃ (base upper : Nat), (base : Int) = header.fileOffset + index * header.entrySize ∧
      upper < 64 ∧ (struct identity.addressClass).Fits (symbol.record upper) ∧
        image.Holds base
          ((struct identity.addressClass).encode identity.byteOrder (symbol.record upper)) := by
  obtain ⟨base, base_eq, inside, rfl⟩ := (symbol_of_decodeSection decoded).2 index symbol symbol_eq
  have values_nonneg : ∀ name, 0 ≤
      (layout identity.addressClass).valueAt image identity.byteOrder base name :=
    fun name => Layout.valueAt_nonneg name
  have record_eq := record_ofFields index (linkedStrings image header.link linked) values_nonneg
  rw [layout_eq] at inside record_eq values_nonneg ⊢
  have fits : (struct identity.addressClass).Fits fun name =>
      (((struct identity.addressClass).layout 0).valueAt image identity.byteOrder base
        name).toNat :=
    Struct.fits_valueAt inside
  have other_mem : (FieldName.other, 1) ∈ (struct identity.addressClass).members := by
    cases identity.addressClass <;> decide
  have other_lt : (((struct identity.addressClass).layout 0).valueAt image identity.byteOrder base
      .other).toNat < 4 * 64 := fits _ other_mem
  have held : image.Holds (base + 0)
      ((struct identity.addressClass).encode identity.byteOrder fun name =>
        (((struct identity.addressClass).layout 0).valueAt image identity.byteOrder base
          name).toNat) := by
    refine (Struct.holds_encode_iff fits).mpr ⟨inside, ?_⟩
    funext name
    exact (Int.toNat_of_nonneg (values_nonneg name)).symm
  refine ⟨base, _, base_eq, Nat.div_lt_of_lt_mul other_lt, ?_, ?_⟩
  · rw [record_eq]
    exact fits
  · rw [record_eq]
    exact held

end Reading

/-- Decoding gives the records that a section stores, in whatever class, byte order and stride it
stores them; and each symbol of a decoded section, written again with six bits of `other` left open,
is what the image holds at its place. -/
theorem decodeSection_round_trip :
    (∀ (table : EncodedTable FieldName) (image : Image) (header : Section)
        (linked : Option Section) (identity : Identity),
      Stored table image header identity →
        ∃ symbols, decodeSection image header linked identity = .ok symbols ∧
          StandFor symbols table.values) ∧
    (∀ (left right : EncodedTable FieldName) (leftImage rightImage : Image)
        (leftHeader rightHeader : Section) (leftLinked rightLinked : Option Section)
        (leftIdentity rightIdentity : Identity),
      left.values = right.values → Stored left leftImage leftHeader leftIdentity →
        Stored right rightImage rightHeader rightIdentity →
          ∃ leftSymbols rightSymbols,
            decodeSection leftImage leftHeader leftLinked leftIdentity = .ok leftSymbols ∧
              decodeSection rightImage rightHeader rightLinked rightIdentity = .ok rightSymbols ∧
                leftSymbols.map unnamed = rightSymbols.map unnamed) ∧
    ∀ (image : Image) (header : Section) (linked : Option Section) (identity : Identity)
        (symbols : List Symbol),
      decodeSection image header linked identity = .ok symbols →
        symbols.length = (header.size / header.entrySize).toNat ∧
          ∀ (index : Nat) (symbol : Symbol), symbols[index]? = some symbol →
            ∃ (base upper : Nat), (base : Int) = header.fileOffset + index * header.entrySize ∧
              upper < 64 ∧ (struct identity.addressClass).Fits (symbol.record upper) ∧
                image.Holds base
                  ((struct identity.addressClass).encode identity.byteOrder
                    (symbol.record upper)) := by
  refine ⟨?_, ?_, ?_⟩
  · intro table image header linked identity stored
    exact decodeSection_of_stored linked stored
  · intro left right leftImage rightImage leftHeader rightHeader leftLinked rightLinked
      leftIdentity rightIdentity same_records left_stored right_stored
    obtain ⟨leftSymbols, left_decoded, left_for⟩ := decodeSection_of_stored leftLinked left_stored
    obtain ⟨rightSymbols, right_decoded, right_for⟩ :=
      decodeSection_of_stored rightLinked right_stored
    rw [same_records] at left_for
    exact ⟨leftSymbols, rightSymbols, left_decoded, right_decoded,
      left_for.map_unnamed_eq right_for⟩
  · intro image header linked identity symbols decoded
    exact ⟨(symbol_of_decodeSection decoded).1,
      fun index symbol symbol_eq => held_of_decodeSection decoded symbol_eq⟩

/-- A hidden weak function whose section index is reserved. -/
def sampleRecord : FieldName → Nat
  | .nameOffset => 1
  | .value => 0xFFFFFFFF
  | .size => 8
  | .info => 0x22
  | .other => 0xFE
  | .sectionIndex => 0xFFF1

/-- The record behind one byte, with padding and an incomplete entry behind it. -/
def narrowImage : Image :=
  Image.ofList ([0xAA] ++ (struct .bits32).encode .little sampleRecord ++ [0xBB, 0xCC])

/-- The record in the wide class and the other byte order. -/
def wideImage : Image := Image.ofList ((struct .bits64).encode .big sampleRecord)

/-- The two images of one record decode to the same symbol, and the narrow one holds the record of
that symbol. -/
theorem decodeSection_narrow_wide :
    ∃ narrow wide : List Symbol,
      decodeSection narrowImage { index := 2, fileOffset := 1, size := 18, entrySize := 17 } none
          { addressClass := .bits32, byteOrder := .little } = .ok narrow ∧
        decodeSection wideImage { index := 5, size := 24, entrySize := 24 } none
            { addressClass := .bits64, byteOrder := .big } = .ok wide ∧
          narrow.map unnamed = wide.map unnamed ∧ StandFor narrow [sampleRecord] ∧
            ∀ symbol, narrow[0]? = some symbol →
              ∃ upper, narrowImage.Holds 1
                ((struct .bits32).encode .little (symbol.record upper)) := by
  have narrow_stored : Stored ⟨1, 17, [sampleRecord]⟩ narrowImage
      { index := 2, fileOffset := 1, size := 18, entrySize := 17 }
      { addressClass := .bits32, byteOrder := .little } := by
    refine ⟨by decide, by decide, ?_, by decide, by decide⟩
    constructor <;> decide
  have wide_stored : Stored ⟨0, 24, [sampleRecord]⟩ wideImage
      { index := 5, size := 24, entrySize := 24 }
      { addressClass := .bits64, byteOrder := .big } := by
    refine ⟨by decide, by decide, ?_, by decide, by decide⟩
    constructor <;> decide
  obtain ⟨written, same, read⟩ := decodeSection_round_trip
  obtain ⟨narrow, wide, narrow_decoded, wide_decoded, same_symbols⟩ :=
    same ⟨1, 17, [sampleRecord]⟩ ⟨0, 24, [sampleRecord]⟩ _ _ _ _ none none _ _ rfl narrow_stored
      wide_stored
  obtain ⟨symbols, symbols_decoded, stand_for⟩ := written _ _ _ none _ narrow_stored
  obtain rfl : narrow = symbols := Except.ok.inj (narrow_decoded.symm.trans symbols_decoded)
  refine ⟨narrow, wide, narrow_decoded, wide_decoded, same_symbols, stand_for, ?_⟩
  intro symbol symbol_eq
  obtain ⟨base, upper, base_eq, _, _, held⟩ :=
    (read _ _ _ _ _ narrow_decoded).2 0 symbol symbol_eq
  have base_one : (base : Int) = 1 := by simpa using base_eq
  obtain rfl : base = 1 := by exact_mod_cast base_one
  exact ⟨upper, held⟩

end Symbol
end ElfInspect

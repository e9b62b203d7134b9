import ElfInspect.Proofs.Codes
import ElfInspect.Proofs.Display
import ElfInspect.Proofs.Dump.Pipeline
import ElfInspect.Proofs.Text.Markup.Rendering

/-!
# Pages that can be shown

Almost every text of a page looks after its own marks, whatever the names in it are.  The exception
is the row with the sections inside a segment: their names are escaped one by one and then joined,
so that together they can make up a mark.  A page is written to its end exactly if no row does.
-/

namespace ElfInspect

open Markup

theorem Page.fault_concat_eq_none_iff {pages : List Page} :
    (concat pages).fault = none ↔ ∀ page ∈ pages, page.fault = none := by
  induction pages with
  | nil => simp [concat]
  | cons page rest induction =>
      rw [concat, fault_append, Option.or_eq_none_iff, induction, List.forall_mem_cons]

namespace Console

theorem fault_separate_eq_none_iff {pages : List Page} :
    (separate pages).fault = none ↔ ∀ page ∈ pages, page.fault = none := by
  induction pages with
  | nil => simp [separate]
  | cons page rest induction =>
      cases rest with
      | nil => simp [separate]
      | cons next rest =>
          have separate_eq : separate (page :: next :: rest) =
              page ++ blank ++ separate (next :: rest) := rfl
          rw [List.forall_mem_cons, ← induction, separate_eq, Page.fault_append, Page.fault_append,
            Option.or_eq_none_iff, blank, Page.fault_ofLines, Option.or_none]

/-- The styles of all marks. -/
def styles : List String :=
  ["dump.section", "dump.info", "dump.success", "dump.warning", "dump.error", "dump.label",
    "dump.corrupt", "dump.dim"]

theorem isStyle_of_mem : ∀ style ∈ styles, IsStyle style := by
  have starts : ∀ style ∈ styles, style.toList.head? = some 'd' := by simp [styles]
  have lower : ∀ style ∈ styles, ∀ char ∈ style.toList, char.isLower = true ∨ char = '.' := by
    simp [styles]
  exact fun style member => ⟨⟨'d', starts style member, rfl⟩, lower style member⟩

variable {content title addition message label value : String}

theorem sealed_mark {style : String} (member : style ∈ styles) (contained : SelfContained content) :
    Sealed (mark style content) := contained.sealed_mark (isStyle_of_mem style member)

/-- A mark and what stands one blank behind it. -/
theorem selfContained_mark_append {style : String} (member : style ∈ styles)
    (title_contained : SelfContained title) (contained : SelfContained content) :
    SelfContained (mark style title ++ " " ++ content) := by
  have blank : Sealed " " := sealed_of_isPlain (by simp [IsPlain])
  exact ((sealed_mark member title_contained).append blank).append_selfContained contained

theorem sealed_titles {columns : List Column} (plain : ∀ column ∈ columns, IsPlain column.title) :
    ∀ column ∈ columns, Sealed column.title :=
  fun column member => sealed_of_isPlain (plain column member)

section

variable {screen : Screen} (rendered : screen.render = render)
include rendered

theorem fault_print (contained : SelfContained content) : (print screen content).fault = none := by
  obtain ⟨plain, plain_eq⟩ := Option.isSome_iff_exists.mp contained.isSome_render
  rw [print, rendered, plain_eq]
  rfl

theorem fault_heading (title_contained : SelfContained title)
    (addition_contained : SelfContained addition) :
    (heading screen title addition).fault = none := by
  rw [heading]
  refine fault_print rendered ?_
  split
  · exact (sealed_mark (by simp [styles]) title_contained).selfContained
  · exact selfContained_mark_append (by simp [styles]) title_contained
      (sealed_mark (by simp [styles]) addition_contained).selfContained

/-- A heading without an addition. -/
theorem fault_title (plain : IsPlain title) : (heading screen title).fault = none :=
  fault_heading rendered (selfContained_of_isPlain plain)
    (selfContained_of_isPlain (by simp [IsPlain]))

theorem fault_info (contained : SelfContained message) : (info screen message).fault = none :=
  fault_print rendered (sealed_mark (by simp [styles]) contained).selfContained

theorem fault_success (contained : SelfContained message) :
    (success screen message).fault = none :=
  fault_print rendered (selfContained_mark_append (by simp [styles])
    (selfContained_of_isPlain (by simp [IsPlain])) contained)

theorem fault_warning (contained : SelfContained message) :
    (warning screen message).fault = none :=
  fault_print rendered (selfContained_mark_append (by simp [styles])
    (selfContained_of_isPlain (by simp [IsPlain])) contained)

theorem fault_error (contained : SelfContained message) : (error screen message).fault = none :=
  fault_print rendered (selfContained_mark_append (by simp [styles])
    (selfContained_of_isPlain (by simp [IsPlain])) contained)

theorem fault_labelled (label_plain : IsPlain label) (contained : SelfContained value) (gap : Int) :
    (labelled screen label value gap).fault = none := by
  have margin : Sealed "  " := sealed_of_isPlain (by simp [IsPlain])
  have colon : Sealed ":" := sealed_of_isPlain (by simp [IsPlain])
  have blanks : Sealed (String.ofList (Line.blanks (max gap 1).toNat)) :=
    sealed_of_isPlain (by simp [IsPlain, Line.blanks])
  have label_sealed : Sealed (mark "dump.label" label) :=
    sealed_mark (by simp [styles]) (selfContained_of_isPlain label_plain)
  exact fault_print rendered
    ((((margin.append label_sealed).append colon).append blanks).append_selfContained contained)

theorem fault_keyValues {pairs : List (String × String)}
    (plain : ∀ pair ∈ pairs, IsPlain pair.1 ∧ IsPlain pair.2) :
    (keyValues screen pairs).fault = none := by
  refine Page.fault_concat_eq_none_iff.mpr fun page member => ?_
  obtain ⟨pair, pair_mem, rfl⟩ := List.mem_map.mp member
  obtain ⟨label_plain, value_plain⟩ := plain pair pair_mem
  exact fault_labelled rendered label_plain (selfContained_of_isPlain value_plain) _

/-- A grid is written if its cells can be shown, provided that its titles can. -/
theorem fault_grid_iff {columns : List Column} {rows : List (List String)}
    (titled : ∀ column ∈ columns, Sealed column.title) :
    (grid screen columns rows).fault = none ↔ ∀ row ∈ rows, ∀ cell ∈ row, (render cell).isSome := by
  have titles : ∀ column ∈ columns, (render column.title).isSome :=
    fun column member => (titled column member).selfContained.isSome_render
  rw [fault_grid_eq_none_iff, rendered]
  exact ⟨fun whole => whole.2.1, fun cells => ⟨titles, cells, rfl, rfl⟩⟩

end

end Console

/-! ## Cells -/

theorem SectionFlags.isPlain_text (flags : Int) : IsPlain (text flags) := by
  have absent {char : Char} (unused : char ∉ 'x' :: letters.map Prod.snd) :
      char ∉ (text flags).toList := by
    rw [text, String.toList_ofList, List.mem_append, not_or]
    constructor
    · intro member
      obtain ⟨letter, kept, rfl⟩ := List.mem_map.mp member
      exact unused (.tail _ (List.mem_map_of_mem (List.mem_of_mem_filter kept)))
    · split <;> simp_all
  exact ⟨absent (by decide), absent (by decide)⟩

theorem SegmentFlags.isPlain_text (flags : Int) : IsPlain (text flags) := by
  have absent {char : Char} (unused : char ∉ ' ' :: letters.map Prod.snd) :
      char ∉ (text flags).toList := by
    rw [text, String.toList_ofList]
    intro member
    obtain ⟨letter, letter_mem, rfl⟩ := List.mem_map.mp member
    refine unused ?_
    split
    · exact .tail _ (List.mem_map_of_mem letter_mem)
    · exact .head _
  exact ⟨absent (by decide), absent (by decide)⟩

theorem SectionIndex.sealed_text (index : Int) : Sealed (text index) := by
  have names_plain : ∀ entry ∈ names, IsPlain entry.2 := by simp [names, IsPlain]
  rw [text_eq]
  cases found : names.lookup index with
  | some name => exact sealed_of_isPlain (names_plain _ (mem_of_lookup found))
  | none =>
      rw [Option.getD_none, numbered]
      split
      · have number_plain : IsPlain ("0x" ++ Numeral.hexFill 4 index ++ "]") := by
          simp only [isPlain_append, Numeral.isPlain_hexFill, and_true]
          simp [IsPlain]
        have opening : Sealed "RSV" := sealed_of_isPlain (by simp [IsPlain])
        have bracketed := (sealed_of_isPlain number_plain).bracket_append ⟨'0', by simp, rfl⟩
        have text_eq : "RSV[0x" ++ Numeral.hexFill 4 index ++ "]" =
            "RSV" ++ ("[" ++ ("0x" ++ Numeral.hexFill 4 index ++ "]")) := by
          have opening_eq : "RSV[0x" = "RSV" ++ ("[" ++ "0x") := rfl
          simp only [opening_eq, String.append_assoc]
        rw [text_eq]
        exact opening.append bracketed
      · exact sealed_of_isPlain (Numeral.isPlain_toString index)

namespace Display

open Console

theorem isPlain_codeCell (kind : CodeKind) (code : Int) : IsPlain (codeCell kind code) := by
  rw [codeCell, escape_eq_self (kind.isPlain_describe code)]
  exact kind.isPlain_describe code

theorem isPlain_hex (value : Int) : IsPlain (hex value) :=
  isPlain_append.mpr ⟨by simp [IsPlain], Numeral.isPlain_hex value⟩

theorem isPlain_rightDecimal (width : Nat) (value : Int) : IsPlain (rightDecimal width value) :=
  isPlain_append.mpr ⟨by simp [IsPlain, Line.blanks], Numeral.isPlain_toString value⟩

theorem sealed_corrupt (marker : Marker) : Sealed (corrupt marker) := by
  have opening : Sealed "<corrupt: " := sealed_of_isPlain (by simp [IsPlain])
  have contained : SelfContained ("<corrupt: " ++ escape marker.kind ++ ">") :=
    (opening.append_selfContained (selfContained_escape marker.kind)).append_plain
      (by simp [IsPlain]) (by simp)
  exact sealed_mark (by simp [styles]) contained

theorem selfContained_nameCell (width : Int) (name : String) (marker : Option Marker) :
    SelfContained (nameCell width name marker) := by
  cases marker with
  | some marker => exact (sealed_corrupt marker).selfContained
  | none => exact selfContained_escape _

/-- The place of a section stands between brackets, and no mark starts with a digit. -/
theorem sealed_place (index : Int) : Sealed ("[" ++ rightDecimal 2 index ++ "]") := by
  have plain : IsPlain (rightDecimal 2 index ++ "]") :=
    isPlain_append.mpr ⟨isPlain_rightDecimal 2 index, by simp [IsPlain]⟩
  have dull : ∀ char ∈ (rightDecimal 2 index ++ "]").toList, startsMark char = false := by
    have digits_dull : ∀ small < 10, startsMark (Nat.digitChar small) = false := by decide
    intro char member
    rw [rightDecimal, Numeral.toString_eq_signed] at member
    simp only [String.toList_append, String.toList_ofList, Line.blanks, List.mem_append,
      List.mem_replicate] at member
    obtain (⟨_, rfl⟩ | digit) | closing := member
    · rfl
    · obtain rfl | ⟨small, small_lt, rfl⟩ :=
        Numeral.sign_or_digit_of_mem (by decide) (by decide) digit
      · rfl
      · exact digits_dull small small_lt
    · obtain rfl : char = ']' := by simpa using closing
      rfl
  have filled : (rightDecimal 2 index ++ "]").toList ≠ [] := by simp
  obtain ⟨first, rest, chars_eq⟩ := List.exists_cons_of_ne_nil filled
  rw [String.append_assoc]
  exact (sealed_of_isPlain plain).bracket_append
    ⟨first, by simp [chars_eq], dull first (chars_eq ▸ .head rest)⟩

theorem selfContained_sectionRow (addressClass : AddressClass) (width : Int) (header : Section) :
    ∀ cell ∈ sectionRow addressClass width header, SelfContained cell := by
  have plain {content : String} : IsPlain content → SelfContained content :=
    selfContained_of_isPlain
  simp only [sectionRow, List.forall_mem_cons]
  refine ⟨(sealed_place _).selfContained, selfContained_nameCell _ _ _,
    plain (isPlain_codeCell _ _), plain (Numeral.isPlain_hexFill _ _),
    plain (Numeral.isPlain_hexFill _ _), plain (Numeral.isPlain_hexFill _ _),
    plain (Numeral.isPlain_hexFill _ _), plain (SectionFlags.isPlain_text _),
    plain (Numeral.isPlain_toString _), plain (Numeral.isPlain_toString _),
    plain (Numeral.isPlain_toString _), List.forall_mem_nil _⟩

theorem selfContained_segmentRow (addressClass : AddressClass) (segment : Segment) :
    ∀ cell ∈ segmentRow addressClass segment, SelfContained cell := by
  have plain {content : String} : IsPlain content → SelfContained content :=
    selfContained_of_isPlain
  have filled (width : Nat) (value : Int) : IsPlain ("0x" ++ Numeral.hexFill width value) :=
    isPlain_append.mpr ⟨by simp [IsPlain], Numeral.isPlain_hexFill width value⟩
  simp only [segmentRow, List.forall_mem_cons]
  exact ⟨plain (isPlain_codeCell _ _), plain (filled _ _), plain (filled _ _), plain (filled _ _),
    plain (filled _ _), plain (filled _ _), plain (SegmentFlags.isPlain_text _),
    plain (isPlain_hex _), List.forall_mem_nil _⟩

theorem selfContained_dynamicValue (entry : DynamicEntry) :
    SelfContained (dynamicValue entry) := by
  rw [dynamicValue]
  cases entry.nameError with
  | some marker => exact (sealed_corrupt marker).selfContained
  | none =>
      cases entry.name with
      | some name => exact selfContained_escape name
      | none => exact selfContained_of_isPlain (isPlain_hex _)

theorem selfContained_dynamicRow (entry : DynamicEntry) :
    ∀ cell ∈ dynamicRow entry, SelfContained cell := by
  have tag_plain (tag : Int) : IsPlain ("0x" ++ Numeral.hexFill 16 tag) :=
    isPlain_append.mpr ⟨by simp [IsPlain], Numeral.isPlain_hexFill 16 tag⟩
  have kind_plain (tag : Int) : IsPlain ("(" ++ codeCell .dynamicTag tag ++ ")") := by
    simp only [isPlain_append, isPlain_codeCell, and_true]
    simp [IsPlain]
  simp only [dynamicRow, List.forall_mem_cons]
  exact ⟨selfContained_of_isPlain (tag_plain _),
    selfContained_of_isPlain (kind_plain _), selfContained_dynamicValue entry,
    List.forall_mem_nil _⟩

theorem selfContained_symbolRow (addressClass : AddressClass) (width : Int) (symbol : Symbol) :
    ∀ cell ∈ symbolRow addressClass width symbol, SelfContained cell := by
  have plain {content : String} : IsPlain content → SelfContained content :=
    selfContained_of_isPlain
  have number_plain (value : Int) : IsPlain (toString value ++ ":") :=
    isPlain_append.mpr ⟨Numeral.isPlain_toString value, by simp [IsPlain]⟩
  simp only [symbolRow, List.forall_mem_cons]
  exact ⟨plain (number_plain _), plain (Numeral.isPlain_hexFill _ _),
    plain (Numeral.isPlain_toString _), plain (isPlain_codeCell _ _), plain (isPlain_codeCell _ _),
    plain (isPlain_codeCell _ _), (SectionIndex.sealed_text _).selfContained,
    selfContained_nameCell _ _ _, List.forall_mem_nil _⟩

theorem isPlain_magic (ident : List UInt8) : IsPlain (magic ident) := by
  rw [magic]
  induction ident with
  | nil => simp [IsPlain]
  | cons byte rest induction =>
      have byte_plain := Numeral.isPlain_hexFill 2 byte.toNat
      cases rest with
      | nil => exact byte_plain
      | cons next rest =>
          rw [List.map_cons, List.map_cons, String.intercalate_cons_cons, isPlain_append,
            isPlain_append]
          exact ⟨⟨byte_plain, by simp [IsPlain]⟩, induction⟩

theorem isPlain_dataEncoding (byteOrder : ByteOrder) : IsPlain (dataEncoding byteOrder) := by
  cases byteOrder <;> simp [dataEncoding, IsPlain]

theorem isPlain_identVersion (version : Nat) : IsPlain (identVersion version) := by
  refine isPlain_append.mpr ⟨Numeral.isPlain_toString_natCast version, ?_⟩
  split <;> simp [IsPlain]

theorem isPlain_flagKey : IsPlain flagKey := by
  unfold flagKey
  refine isPlain_append.mpr ⟨isPlain_append.mpr ⟨?_, ?_⟩, ?_⟩
  · simp [IsPlain]
  · simp [IsPlain]
  · simp [IsPlain]

theorem isPlain_entryCount (count : Nat) : IsPlain (entryCount count) := by
  simp only [entryCount, isPlain_append, Numeral.isPlain_toString_natCast, and_true]
  simp [IsPlain]

/-! ## Titles -/

theorem sealed_sectionColumns : ∀ column ∈ sectionColumns, Sealed column.title := by
  have plain : ∀ column ∈ sectionColumns.tail, IsPlain column.title := by
    simp [sectionColumns, Column.left, Column.right, IsPlain]
  have place : Sealed ("[" ++ "Nr]") :=
    (sealed_of_isPlain (by simp [IsPlain])).bracket_append ⟨'N', by simp, rfl⟩
  exact List.forall_mem_cons.mpr ⟨place, sealed_titles plain⟩

theorem sealed_segmentColumns : ∀ column ∈ segmentColumns, Sealed column.title :=
  sealed_titles (by simp [segmentColumns, Column.left, IsPlain])

theorem sealed_symbolColumns : ∀ column ∈ symbolColumns, Sealed column.title :=
  sealed_titles (by simp [symbolColumns, Column.left, Column.right, IsPlain])

/-! ## Parts -/

/-- The escaped names of the sections inside each segment, one blank between two of them, can be
shown; there is nothing to show without segments. -/
def MappingShows (dump : Dump) : Prop :=
  dump.segments ≠ [] → ∀ members ∈ dump.segmentSections,
    (render (" ".intercalate (members.filterMap fun member =>
      dump.sections[member.toNat]?.map fun header => escape header.displayName))).isSome

theorem mappingShows_iff {dump : Dump} (filled : dump.segments ≠ []) :
    MappingShows dump ↔ ∀ members ∈ dump.segmentSections,
      (render (memberNames dump.sections.toArray members)).isSome := by
  simp only [MappingShows, memberNames, List.getElem?_toArray]
  exact ⟨fun shows => shows filled, fun shows _ => shows⟩

/-- The rows of the mapping can be shown if the names in each of them can. -/
theorem mappingRows_iff {sections : Array Section} {rows : List (List Int)} :
    (∀ row ∈ rows.mapIdx (mappingRow sections), ∀ cell ∈ row, (render cell).isSome) ↔
      ∀ members ∈ rows, (render (memberNames sections members)).isSome := by
  constructor
  · intro shows members member
    obtain ⟨index, place, rfl⟩ := List.mem_iff_getElem.mp member
    have row_mem : mappingRow sections index rows[index] ∈ rows.mapIdx (mappingRow sections) :=
      List.mem_mapIdx.mpr ⟨index, place, rfl⟩
    exact shows _ row_mem _ (.tail _ (.head _))
  · intro shows row row_mem cell cell_mem
    obtain ⟨index, place, rfl⟩ := List.mem_mapIdx.mp row_mem
    obtain rfl | rfl :
        cell = Numeral.decimalFill 2 index ∨ cell = memberNames sections rows[index] := by
      simpa [mappingRow] using cell_mem
    · exact (selfContained_of_isPlain (Numeral.isPlain_decimalFill _ _)).isSome_render
    · exact shows _ (List.getElem_mem place)

section

variable {screen : Screen} (rendered : screen.render = render)
include rendered

theorem fault_fileHeader (dump : Dump) : (fileHeader screen dump).fault = none := by
  have title : SelfContained "ELF Header" := selfContained_of_isPlain (by simp [IsPlain])
  simp only [fileHeader, Page.fault_append, Option.or_eq_none_iff]
  refine ⟨⟨fault_heading rendered title (selfContained_escape _), fault_print rendered ?magic⟩,
    fault_keyValues rendered ?values⟩
  case magic =>
    have margin : Sealed "  " := sealed_of_isPlain (by simp [IsPlain])
    have label : Sealed (mark "dump.label" "Magic") :=
      sealed_mark (by simp [styles]) (selfContained_of_isPlain (by simp [IsPlain]))
    have colon : Sealed ":   " := sealed_of_isPlain (by simp [IsPlain])
    exact (((margin.append label).append colon).append
      (sealed_of_isPlain (isPlain_magic _))).selfContained
  case values =>
    simp only [List.forall_mem_cons, isPlain_append, isPlain_hex, Numeral.isPlain_toString,
      Numeral.isPlain_toString_natCast, CodeKind.isPlain_describe, isPlain_dataEncoding,
      isPlain_identVersion, and_true, true_and]
    simp [IsPlain]

theorem fault_sectionHeaders (width : Int) (dump : Dump) :
    (sectionHeaders screen (some width) dump).fault = none := by
  have counted : IsPlain ("There are " ++ toString dump.sections.length ++
      " section headers, starting at offset " ++ hex dump.header.sectionHeaderOffset ++ ":") := by
    simp only [isPlain_append, Numeral.isPlain_toString_natCast, isPlain_hex, and_true]
    simp [IsPlain]
  have top_fault := fault_print rendered (selfContained_of_isPlain counted)
  have title_fault : (heading screen "Section Headers").fault = none :=
    fault_title rendered (by simp [IsPlain])
  have absent_fault : (info screen "There are no sections in this file.").fault = none :=
    fault_info rendered (selfContained_of_isPlain (by simp [IsPlain]))
  have key_fault : (print screen (mark "dump.dim" flagKey)).fault = none :=
    fault_print rendered
      (sealed_mark (by simp [styles]) (selfContained_of_isPlain isPlain_flagKey)).selfContained
  have grid_fault : (grid screen sectionColumns
      (dump.sections.map (sectionRow dump.identity.addressClass width))).fault = none := by
    rw [fault_grid_iff rendered sealed_sectionColumns]
    intro row member cell cell_mem
    obtain ⟨header, _, rfl⟩ := List.mem_map.mp member
    exact (selfContained_sectionRow _ width header cell cell_mem).isSome_render
  simp only [sectionHeaders, Option.isNone_some, Bool.false_and, Bool.false_eq_true, if_false,
    Option.getD_some]
  split <;> simp only [Page.fault_append, blank, Page.fault_ofLines, Option.or_none, top_fault,
    title_fault, absent_fault, key_fault, grid_fault]

theorem fault_programHeaders_iff (dump : Dump) :
    (programHeaders screen dump).fault = none ↔ MappingShows dump := by
  have kind : IsPlain ("Elf file type is " ++ codeCell .objectType dump.header.objectType) :=
    isPlain_append.mpr ⟨by simp [IsPlain], isPlain_codeCell _ _⟩
  have entry : IsPlain ("Entry point " ++ hex dump.header.entryPoint) :=
    isPlain_append.mpr ⟨by simp [IsPlain], isPlain_hex _⟩
  have counted : IsPlain ("There are " ++ toString dump.segments.length ++
      " program headers, starting at offset " ++ toString dump.header.programHeaderOffset) := by
    simp only [isPlain_append, Numeral.isPlain_toString_natCast, Numeral.isPlain_toString, and_true]
    simp [IsPlain]
  have kind_fault := fault_print rendered (selfContained_of_isPlain kind)
  have entry_fault := fault_print rendered (selfContained_of_isPlain entry)
  have counted_fault := fault_print rendered (selfContained_of_isPlain counted)
  have title_fault : (heading screen "Program Headers").fault = none :=
    fault_title rendered (by simp [IsPlain])
  have mapping_fault : (heading screen "Section to Segment mapping").fault = none :=
    fault_title rendered (by simp [IsPlain])
  have absent_fault : (info screen "There are no program headers in this file.").fault = none :=
    fault_info rendered (selfContained_of_isPlain (by simp [IsPlain]))
  have grid_fault : (grid screen segmentColumns
      (dump.segments.map (segmentRow dump.identity.addressClass))).fault = none := by
    rw [fault_grid_iff rendered sealed_segmentColumns]
    intro row member cell cell_mem
    obtain ⟨segment, _, rfl⟩ := List.mem_map.mp member
    exact (selfContained_segmentRow _ segment cell cell_mem).isSome_render
  have titles : ∀ column ∈ [.left "Segment", .left "Sections..."], Sealed (Column.title column) :=
    sealed_titles (by simp [Column.left, IsPlain])
  by_cases empty : dump.segments.isEmpty = true
  · have whole : (programHeaders screen dump).fault = none := by
      simp only [programHeaders, if_pos empty, Page.fault_append, blank, Page.fault_ofLines,
        Option.or_none, kind_fault, entry_fault, counted_fault, title_fault, absent_fault]
    exact iff_of_true whole fun filled => absurd (List.isEmpty_iff.mp empty) filled
  · have fault_eq : (programHeaders screen dump).fault =
        (grid screen [.left "Segment", .left "Sections..."]
          (dump.segmentSections.mapIdx (mappingRow dump.sections.toArray))).fault := by
      simp only [programHeaders, if_neg empty, Page.fault_append, blank, Page.fault_ofLines,
        Option.or_none, Option.none_or, kind_fault, entry_fault, counted_fault, title_fault,
        grid_fault, mapping_fault]
    rw [fault_eq, fault_grid_iff rendered titles, mappingRows_iff,
      mappingShows_iff (mt List.isEmpty_iff.mpr empty)]

theorem fault_dynamic (dump : Dump) : (dynamic screen dump).fault = none := by
  have titles : ∀ column ∈ [.left "Tag", .left "Type", .left "Name/Value"],
      Sealed (Column.title column) := sealed_titles (by simp [Column.left, IsPlain])
  have absent_fault : (info screen "There is no dynamic section in this file.").fault = none :=
    fault_info rendered (selfContained_of_isPlain (by simp [IsPlain]))
  have title_fault :
      (heading screen "Dynamic section" (entryCount dump.dynamic.length)).fault = none :=
    fault_heading rendered (selfContained_of_isPlain (by simp [IsPlain]))
      (selfContained_of_isPlain (isPlain_entryCount _))
  rw [dynamic]
  split
  · exact absent_fault
  · rw [Page.fault_append, title_fault, Option.none_or, fault_grid_iff rendered titles]
    intro row member cell cell_mem
    obtain ⟨entry, _, rfl⟩ := List.mem_map.mp member
    exact (selfContained_dynamicRow entry cell cell_mem).isSome_render

theorem fault_symbolTable (addressClass : AddressClass) (width : Int) (table : SymbolTable) :
    (symbolTable screen addressClass (some width) table).fault = none := by
  have opening : Sealed "Symbol table '" := sealed_of_isPlain (by simp [IsPlain])
  have title : SelfContained ("Symbol table '" ++ escape table.sectionName ++ "'") :=
    (opening.append_selfContained (selfContained_escape _)).append_plain (by simp [IsPlain])
      (by simp)
  have title_fault := fault_heading rendered title
    (selfContained_of_isPlain (isPlain_entryCount table.symbols.length))
  rw [symbolTable]
  cases table.error with
  | some marker =>
      have told : Sealed (corrupt marker ++ " ") :=
        (sealed_corrupt marker).append (sealed_of_isPlain (by simp [IsPlain]))
      simp only [Page.fault_append, title_fault, Option.none_or]
      exact fault_warning rendered (told.append_selfContained (selfContained_escape _))
  | none =>
      simp only [Option.isNone_some, Bool.false_and, Bool.false_eq_true, if_false, Option.getD_some,
        Page.fault_append, title_fault, Option.none_or]
      rw [fault_grid_iff rendered sealed_symbolColumns]
      intro row member cell cell_mem
      obtain ⟨symbol, _, rfl⟩ := List.mem_map.mp member
      exact (selfContained_symbolRow _ width symbol cell cell_mem).isSome_render

theorem fault_symbolTables (width : Int) (kinds : List Int) (dump : Dump) :
    (symbolTables screen (some width) kinds dump).fault = none := by
  have absent_fault : (info screen "No symbol tables in this file.").fault = none :=
    fault_info rendered (selfContained_of_isPlain (by simp [IsPlain]))
  simp only [symbolTables]
  split
  · exact absent_fault
  · refine fault_separate_eq_none_iff.mpr fun page member => ?_
    obtain ⟨table, _, rfl⟩ := List.mem_map.mp member
    exact fault_symbolTable rendered _ width table

theorem fault_warnings {dump : Dump} (plain : ∀ marker ∈ dump.warnings, IsPlain marker.field) :
    (warnings screen dump).fault = none := by
  rw [warnings]
  split
  · rfl
  · rw [Page.fault_append, blank, Page.fault_ofLines, Option.none_or,
      Page.fault_concat_eq_none_iff]
    intro page member
    obtain ⟨marker, marker_mem, rfl⟩ := List.mem_map.mp member
    have field_plain := plain marker marker_mem
    have colon : Sealed ": " := sealed_of_isPlain (by simp [IsPlain])
    rw [escape_eq_self field_plain]
    exact fault_warning rendered
      (((sealed_of_isPlain field_plain).append colon).append_selfContained (selfContained_escape _))

/-- A page is written to its end exactly if the sections inside each segment can be shown, or need
not be. -/
theorem fault_page_iff (width : Int) (parts : Parts) {dump : Dump}
    (plain : ∀ marker ∈ dump.warnings, IsPlain marker.field) :
    (page screen (some width) parts dump).fault = none ↔
      (parts.programHeaders = true → MappingShows dump) := by
  have chosen_iff (chosen : Bool) (part : Page) :
      (∀ page ∈ if chosen then [part] else [], page.fault = none) ↔
        (chosen = true → part.fault = none) := by
    cases chosen <;> simp
  rw [page, Page.fault_append, Option.or_eq_none_iff, fault_separate_eq_none_iff]
  simp only [pages, List.forall_mem_append, chosen_iff, fault_warnings rendered plain, and_true,
    fault_fileHeader rendered, fault_sectionHeaders rendered, fault_dynamic rendered,
    fault_programHeaders_iff rendered, implies_true, true_and]
  refine and_iff_left ?_
  cases parts.symbols with
  | false => exact (chosen_iff _ _).mpr fun _ => fault_symbolTables rendered width _ dump
  | true =>
      rw [if_pos rfl, List.forall_mem_singleton]
      exact fault_symbolTables rendered width _ dump

end

end Display

/-- The warnings of a dump tell of tables under names with nothing to escape. -/
theorem Dump.isPlain_field_of_decode {image : Image} {path : String} {dump : Dump}
    (decoded : decode image path = .ok dump) : ∀ marker ∈ dump.warnings, IsPlain marker.field := by
  obtain ⟨identity, header, _, _, rfl⟩ := decode_eq_ok_iff.mp decoded
  have traced {α : Type} {field : String} {outcome : Except Fault α} (plain : IsPlain field) :
      ∀ marker ∈ (Fault.trace? field outcome).toList, IsPlain marker.field := by
    intro marker member
    obtain ⟨fault, _, rfl⟩ := Fault.mem_trace? member
    exact plain
  simp only [ofHeader, List.forall_mem_append]
  exact ⟨⟨traced (by simp [IsPlain]), traced (by simp [IsPlain])⟩, traced (by simp [IsPlain])⟩

end ElfInspect

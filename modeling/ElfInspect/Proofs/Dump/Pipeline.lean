import ElfInspect.Dump
import ElfInspect.Proofs.DynamicEntry
import ElfInspect.Proofs.Symbol

/-!
# The dump of an image without its log

The log only watches: what is decoded from an image depends on the image alone.  `Dump.ofHeader`
puts the tables together without a log, and `Dump.decode_eq` says that this is the dump.
-/

namespace ElfInspect

namespace Logged

variable {α : Type}

theorem within_result (operation : String) (action : Logged α) (log : Log) :
    (within operation action log).1 = (action (log.enter { operation := operation }).2).1 := rfl

theorem timed_result (label : String) (action : Logged α) (log : Log) :
    (timed label action log).1 =
      (action (log.add .debug ("Started: " ++ label))).1 := rfl

theorem bind_result {β : Type} (first : Logged α) (next : α → Logged β) (log : Log) :
    ((first >>= next) log).1 = (next (first log).1 (first log).2).1 := rfl

theorem noting_result (condition : Prop) [Decidable condition] (severity : Severity)
    (message : String) (result : α) (log : Log) :
    ((do
        if condition then note severity message
        return result : Logged α) log).1 = result := by
  by_cases noted : condition
  · rw [if_pos noted]
    rfl
  · rw [if_neg noted]
    rfl

end Logged

namespace Dump

/-- The sections with their names that a file header leads to. -/
def namedSections (image : Image) (identity : Identity) (header : FileHeader) : List Section :=
  Section.resolveNames (Fault.entries (Section.decodeTable image header identity)) image
    header.sectionNameStringTableIndex

/-- The dump of an image whose header is known. -/
def ofHeader (image : Image) (path : String) (identity : Identity) (header : FileHeader) : Dump :=
  let segments := Segment.decodeTable image header identity
  let sections := namedSections image identity header
  let dynamic := DynamicEntry.outcome image sections identity
  { path := path
    size := image.size
    identity := identity
    header := header
    segments := Fault.entries segments
    sections := sections
    segmentSections := Segment.mapSections (Fault.entries segments) sections
    symbolTables := SymbolTable.decodeAll image sections identity
    dynamic := Fault.entries dynamic
    warnings :=
      (Fault.trace? "program_headers" segments).toList ++
        (Fault.trace? "section_headers" (Section.decodeTable image header identity)).toList ++
        (Fault.trace? "dynamic" dynamic).toList }

variable {image : Image} {identity : Identity} {header : FileHeader}

theorem recover_result {α : Type} (field announcement : String) (outcome : Except Fault (List α))
    (log : Log) :
    (recover field announcement outcome log).1 =
      (Fault.entries outcome, (Fault.trace? field outcome).toList) := by
  cases outcome <;> rfl

theorem decodeSegments_result (log : Log) :
    (decodeSegments image identity header log).1 =
      (Fault.entries (Segment.decodeTable image header identity),
        (Fault.trace? "program_headers" (Segment.decodeTable image header identity)).toList) := by
  rw [decodeSegments, Logged.within_result, recover_result]

theorem decodeSections_result (log : Log) :
    (decodeSections image identity header log).1 =
      (namedSections image identity header,
        (Fault.trace? "section_headers" (Section.decodeTable image header identity)).toList) := by
  rw [decodeSections, Logged.within_result, Logged.bind_result, recover_result, namedSections]
  exact Logged.noting_result (countBadNames _ ≠ 0) _ _ _ _

theorem decodeSymbolTables_result (sections : List Section) (log : Log) :
    (decodeSymbolTables image identity sections log).1 =
      SymbolTable.decodeAll image sections identity := rfl

theorem decodeDynamic_result (sections : List Section) (log : Log) :
    (decodeDynamic image identity sections log).1 =
      (Fault.entries (DynamicEntry.outcome image sections identity),
        (Fault.trace? "dynamic" (DynamicEntry.outcome image sections identity)).toList) := by
  rw [decodeDynamic, Logged.within_result, DynamicEntry.outcome]
  cases DynamicEntry.findSection? sections with
  | none => rfl
  | some header => exact recover_result _ _ _ _

theorem decodeTables_result (image : Image) (path : String) (identity : Identity)
    (header : FileHeader) (log : Log) :
    (decodeTables image path identity header log).1 = ofHeader image path identity header := by
  rw [decodeTables, Logged.bind_result, decodeSegments_result]
  simp only [Logged.bind_result, decodeSections_result, decodeSymbolTables_result,
    decodeDynamic_result]
  rfl

theorem decodeHeader_result (image : Image) (log : Log) :
    (decodeHeader image log).1 = do
      let identity ← Identity.decode image
      let header ← FileHeader.decode image identity
      return (identity, header) := by
  rw [decodeHeader, Logged.within_result]
  cases identity_eq : Identity.decode image with
  | error rejection => rfl
  | ok identity =>
      cases header_eq : FileHeader.decode image identity with
      | error rejection =>
          simp only [bind, Except.bind, header_eq]
          rfl
      | ok header =>
          simp only [bind, Except.bind, header_eq]
          rfl

/-- A dump is decoded in three steps, each of which sees the image and what came before. -/
theorem decode_eq (image : Image) (path : String) :
    decode image path = do
      let identity ← Identity.decode image
      let header ← FileHeader.decode image identity
      return ofHeader image path identity header := by
  rw [decode, decodeLogged, Logged.timed_result, Logged.bind_result, decodeHeader_result]
  cases identity_eq : Identity.decode image with
  | error rejection => rfl
  | ok identity =>
      cases header_eq : FileHeader.decode image identity with
      | error rejection =>
          simp only [bind, Except.bind, header_eq]
          rfl
      | ok header =>
          simp only [bind, Except.bind, header_eq]
          exact congrArg Except.ok (decodeTables_result image path identity header _)

theorem decode_eq_ok_iff {path : String} {dump : Dump} :
    decode image path = .ok dump ↔
      ∃ identity header, Identity.decode image = .ok identity ∧
        FileHeader.decode image identity = .ok header ∧
          dump = ofHeader image path identity header := by
  rw [decode_eq]
  constructor
  · intro decoded
    cases identity_eq : Identity.decode image with
    | error rejection =>
        rw [identity_eq] at decoded
        contradiction
    | ok identity =>
        rw [identity_eq] at decoded
        cases header_eq : FileHeader.decode image identity with
        | error rejection =>
            simp only [bind, Except.bind, header_eq] at decoded
            contradiction
        | ok header =>
            simp only [bind, Except.bind, header_eq] at decoded
            exact ⟨identity, header, rfl, header_eq, (Except.ok.inj decoded).symm⟩
  · rintro ⟨identity, header, identity_eq, header_eq, rfl⟩
    rw [identity_eq]
    simp only [bind, Except.bind, header_eq]
    rfl

/-- An image whose dump passes a check has a dump. -/
theorem exists_of_any_decode {path : String} {check : Dump → Bool}
    (passed : (decode image path).toOption.any check = true) :
    ∃ dump, decode image path = .ok dump ∧ check dump = true := by
  cases decoded : decode image path with
  | error rejection =>
      rw [decoded] at passed
      contradiction
  | ok dump =>
      rw [decoded] at passed
      exact ⟨dump, rfl, passed⟩

/-- An image with the same bytes in its file header, and at least those, leads to the same file
header. -/
theorem decode_of_agree {left right : Image} {path : String} {dump : Dump}
    (decoded : decode left path = .ok dump)
    (agree : left.AgreeOn right (FileHeader.extent dump.identity.addressClass))
    (inside : (FileHeader.extent dump.identity.addressClass).size ≤ right.size) :
    ∃ identity header,
      dump = ofHeader left path identity header ∧
        decode right path = .ok (ofHeader right path identity header) ∧
          ∀ name, 0 ≤ header.field name := by
  obtain ⟨identity, header, identity_eq, header_eq, rfl⟩ := decode_eq_ok_iff.mp decoded
  have block_inside : 16 ≤ (FileHeader.extent identity.addressClass).size := by
    cases identity.addressClass <;> decide
  have right_inside : (FileHeader.extent identity.addressClass).size ≤ right.size := inside
  have header_agree : left.AgreeOn right (FileHeader.extent identity.addressClass) := agree
  have block_agree : left.AgreeOn right ⟨0, 16⟩ := by
    apply header_agree.mono
    · exact Int.le_refl 0
    · simpa [FileHeader.extent] using block_inside
  have right_identity := Identity.decode_congr block_agree (by omega) identity_eq
  have right_header := FileHeader.decode_congr header_agree right_inside header_eq
  exact ⟨identity, header, rfl,
    decode_eq_ok_iff.mpr ⟨identity, header, right_identity, right_header, rfl⟩,
    FileHeader.field_nonneg header_eq⟩

theorem header_inside {path : String} {dump : Dump} (decoded : decode image path = .ok dump) :
    (FileHeader.extent dump.identity.addressClass).size ≤ image.size := by
  obtain ⟨identity, header, _, header_eq, rfl⟩ := decode_eq_ok_iff.mp decoded
  exact (FileHeader.decode_eq_ok_iff.mp header_eq).1

/-! ## Sections of a dump -/

theorem map_unnamed_namedSections (image : Image) (identity : Identity) (header : FileHeader) :
    (namedSections image identity header).map Section.unnamed =
      Fault.entries (Section.decodeTable image header identity) := by
  rw [namedSections, Section.map_unnamed_resolveNames, Section.map_unnamed_decodeTable]

/-- A section gets its name when it has no marker yet. -/
theorem eq_nameBy_of_mem {found : Section} (member : found ∈ namedSections image identity header) :
    ∃ decoded : Section, decoded.nameError = none ∧
      found = decoded.nameBy ((Section.nameTable
        (Fault.entries (Section.decodeTable image header identity)) image
        header.sectionNameStringTableIndex).map StringTable.lookup) := by
  rw [namedSections, Section.resolveNames_eq] at member
  obtain ⟨decoded, decoded_mem, rfl⟩ := List.mem_map.mp member
  refine ⟨decoded, ?_, rfl⟩
  rw [← Section.map_unnamed_decodeTable] at decoded_mem
  obtain ⟨_, _, rfl⟩ := List.mem_map.mp decoded_mem
  rfl

theorem namedSections_nonneg (offset_nonneg : 0 ≤ header.sectionHeaderOffset) {found : Section}
    (member : found ∈ namedSections image identity header) (name : Section.FieldName) :
    0 ≤ found.field name := by
  have unnamed_mem := List.mem_map_of_mem (f := Section.unnamed) member
  rw [map_unnamed_namedSections] at unnamed_mem
  rw [← Section.field_unnamed]
  exact Section.field_nonneg offset_nonneg unnamed_mem name

theorem fileOffset_nonneg (image : Image) (identity : Identity)
    (offset_nonneg : 0 ≤ header.sectionHeaderOffset) :
    ∀ found ∈ namedSections image identity header, 0 ≤ found.fileOffset :=
  fun _ member => namedSections_nonneg offset_nonneg member .fileOffset

/-- Images with the same section header table have the same sections but for their names. -/
theorem namedSections_unnamed {left right : Image}
    (same_table :
      Section.decodeTable left header identity = Section.decodeTable right header identity) :
    (namedSections left identity header).map Section.unnamed =
      (namedSections right identity header).map Section.unnamed := by
  rw [map_unnamed_namedSections, map_unnamed_namedSections, same_table]

/-! ## A small image -/

/-- The file header of the small image. -/
def smallHeader : FileHeader.FieldName → Nat
  | .programHeaderOffset => 52
  | .programHeaderEntrySize => 32
  | .programHeaderCount => 1
  | .sectionHeaderOffset => 84
  | .sectionHeaderEntrySize => 40
  | .sectionHeaderCount => 1
  | _ => 0

/-- A segment without content. -/
def smallSegment : Segment.FieldName → Nat
  | .segmentType => 1
  | _ => 0

/-- A section of one symbol. -/
def smallSection : Section.FieldName → Nat
  | .sectionType => 2
  | .fileOffset => 124
  | .size => 16
  | .entrySize => 16
  | _ => 0

/-- A file of one segment and one symbol. -/
def smallBytes : List UInt8 :=
  [0x7F, 0x45, 0x4C, 0x46, 1, 1, 1, 0, 0, 0, 0, 0, 0, 0, 0, 0] ++
    (FileHeader.struct .bits32).encode .little smallHeader ++
    (Segment.struct .bits32).encode .little smallSegment ++
    (Section.struct .bits32).encode .little smallSection ++
    (Symbol.struct .bits32).encode .little (fun _ => 0)

/-- The image of that file with one more byte at the end. -/
def small (last : UInt8) : Image := Image.ofList (smallBytes ++ [last])

end Dump

/-- Which sections lie inside a segment does not depend on their names. -/
theorem Segment.members_unnamed (sections : List Section) (segment : Segment) :
    members sections segment = members (sections.map Section.unnamed) segment := by
  rw [members, members, List.filter_map, List.map_map]
  rfl

end ElfInspect

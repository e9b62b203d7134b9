import ElfInspect.DynamicEntry
import ElfInspect.Log.Basic
import ElfInspect.Segment.Membership
import ElfInspect.Symbol

/-!
# Dumps

A dump is everything decoded from one image.  Only a bad identity or file header prevents it; a
table that cannot be decoded is left empty and reported, and all other parts are decoded as usual.
-/

namespace ElfInspect

/-- Everything decoded from an image. -/
structure Dump where
  /-- The path of the image, empty for an image without one. -/
  path : String := ""
  size : Nat := 0
  identity : Identity
  header : FileHeader
  /-- The segments in table order. -/
  segments : List Segment := []
  /-- The sections in table order, with their names. -/
  sections : List Section := []
  /-- For each segment the indices of the sections inside it. -/
  segmentSections : List (List Int) := []
  /-- The symbol tables in the order of their sections. -/
  symbolTables : List SymbolTable := []
  /-- The entries of the dynamic table. -/
  dynamic : List DynamicEntry := []
  /-- The traces of tables that could not be decoded. -/
  warnings : List Marker := []
  deriving DecidableEq, Repr

namespace SymbolTable

/-- The markers of a table: its own, then those of its symbols. -/
def markers (table : SymbolTable) : List Marker :=
  table.error.toList ++ table.symbols.filterMap Symbol.nameError

end SymbolTable

namespace Dump

/-- All markers of a dump, table by table. -/
def markers (dump : Dump) : List Marker :=
  dump.warnings ++ dump.sections.filterMap Section.nameError ++
    dump.symbolTables.flatMap SymbolTable.markers ++
    dump.dynamic.filterMap DynamicEntry.nameError

/-- Whether anything was damaged. -/
def hasWarnings (dump : Dump) : Bool := !dump.markers.isEmpty

/-- The content of a table, or none with the trace of a fault. -/
def recover {α : Type} (field announcement : String) :
    Except Fault (List α) → Logged (List α × List Marker)
  | .ok entries => return (entries, [])
  | .error fault => do
      Logged.note .warning (announcement ++ fault.message)
      return ([], [fault.marker field])

/-- The identity and file header of an image. -/
def decodeHeader (image : Image) : Logged (Except Rejection (Identity × FileHeader)) :=
  Logged.within "header" do
    let decoded : Except Rejection (Identity × FileHeader) := do
      let identity ← Identity.decode image
      let header ← FileHeader.decode image identity
      return (identity, header)
    match decoded with
    | .error rejection => return .error rejection
    | .ok (identity, header) =>
        Logged.note .debug
          ("ELF" ++ toString identity.addressClass.bits ++ " " ++ identity.byteOrder.name ++
            "-endian, " ++ toString header.programHeaderCount ++ " program headers, " ++
            toString header.sectionHeaderCount ++ " section headers")
        return .ok (identity, header)

/-- The segments of an image. -/
def decodeSegments (image : Image) (identity : Identity) (header : FileHeader) :
    Logged (List Segment × List Marker) :=
  Logged.within "segments" do
    recover "program_headers" "Program header table skipped: "
      (Segment.decodeTable image header identity)

/-- The number of sections whose name could not be read. -/
def countBadNames (sections : List Section) : Nat :=
  sections.countP fun header => header.nameError.isSome

/-- The sections of an image with their names. -/
def decodeSections (image : Image) (identity : Identity) (header : FileHeader) :
    Logged (List Section × List Marker) :=
  Logged.within "sections" do
    let (unnamed, warnings) ←
      recover "section_headers" "Section header table skipped: "
        (Section.decodeTable image header identity)
    let sections := Section.resolveNames unnamed image header.sectionNameStringTableIndex
    if countBadNames sections ≠ 0 then
      Logged.note .warning
        (toString (countBadNames sections) ++ " section name(s) could not be resolved")
    return (sections, warnings)

/-- Tells of a decoded symbol table. -/
def noteSymbolTable (table : SymbolTable) : Logged Unit :=
  match table.error with
  | some error =>
      Logged.note .warning
        ("Symbol table " ++ table.sectionName ++ " skipped: " ++ error.message)
  | none =>
      Logged.note .debug
        ("Symbol table " ++ table.sectionName ++ ": " ++ toString table.symbols.length ++
          " entries")

/-- The symbol tables of an image. -/
def decodeSymbolTables (image : Image) (identity : Identity) (sections : List Section) :
    Logged (List SymbolTable) :=
  Logged.within "symbols" do
    let tables := SymbolTable.decodeAll image sections identity
    tables.forM noteSymbolTable
    return tables

/-- The dynamic table of an image. -/
def decodeDynamic (image : Image) (identity : Identity) (sections : List Section) :
    Logged (List DynamicEntry × List Marker) :=
  Logged.within "dynamic" do
    match DynamicEntry.findSection? sections with
    | none => return ([], [])
    | some header =>
        recover "dynamic" "Dynamic section skipped: "
          (DynamicEntry.decodeSection image header (Section.linked? sections header) identity)

/-- The dump of an image whose header is known. -/
def decodeTables (image : Image) (path : String) (identity : Identity) (header : FileHeader) :
    Logged Dump := do
  let (segments, segmentWarnings) ← decodeSegments image identity header
  let (sections, sectionWarnings) ← decodeSections image identity header
  let symbolTables ← decodeSymbolTables image identity sections
  let (dynamic, dynamicWarnings) ← decodeDynamic image identity sections
  return {
    path := path
    size := image.size
    identity := identity
    header := header
    segments := segments
    sections := sections
    segmentSections := Segment.mapSections segments sections
    symbolTables := symbolTables
    dynamic := dynamic
    warnings := segmentWarnings ++ sectionWarnings ++ dynamicWarnings }

/-- The dump of an image, with an account of its decoding in the log. -/
def decodeLogged (image : Image) (path : String) : Logged (Except Rejection Dump) :=
  Logged.timed ("decode " ++ if path.isEmpty then "<memory>" else path) do
    match ← decodeHeader image with
    | .error rejection => return .error rejection
    | .ok (identity, header) => return .ok (← decodeTables image path identity header)

/-- A log that keeps errors alone. -/
def quietLog : Log := { tool := "engine", level := Severity.critical.level }

/-- The dump of an image. -/
def decode (image : Image) (path : String) : Except Rejection Dump :=
  (decodeLogged image path quietLog).1

end Dump
end ElfInspect

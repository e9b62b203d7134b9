import ElfInspect.Dump
import ElfInspect.Value.Json

/-!
# Reports

A report accounts for every file of a run: the dumps of those that could be decoded and the reasons
of those that could not.  It is written as JSON.
-/

namespace ElfInspect

/-- The marker as a value. -/
def Marker.toValue (marker : Marker) : Value :=
  .record
    [("kind", .text marker.kind), ("field", .text marker.field), ("message", .text marker.message)]

/-- The identity as a value. -/
def Identity.toValue (identity : Identity) : Value :=
  .record
    [("address_class", .integer identity.addressClass.code),
      ("byte_order", .integer identity.byteOrder.code),
      ("abi_version", .integer identity.abiVersion), ("version", .integer identity.version),
      ("os_abi", .integer identity.osAbi),
      ("ident", .list (identity.ident.map fun byte => .integer byte.toNat))]

/-- The file header as a value. -/
def FileHeader.toValue (header : FileHeader) : Value :=
  .record
    [("object_type", .integer header.objectType), ("machine", .integer header.machine),
      ("version", .integer header.version), ("entry_point", .integer header.entryPoint),
      ("program_header_offset", .integer header.programHeaderOffset),
      ("section_header_offset", .integer header.sectionHeaderOffset),
      ("flags", .integer header.flags), ("header_size", .integer header.headerSize),
      ("program_header_entry_size", .integer header.programHeaderEntrySize),
      ("program_header_count", .integer header.programHeaderCount),
      ("section_header_entry_size", .integer header.sectionHeaderEntrySize),
      ("section_header_count", .integer header.sectionHeaderCount),
      ("section_name_string_table_index", .integer header.sectionNameStringTableIndex)]

/-- The segment as a value. -/
def Segment.toValue (segment : Segment) : Value :=
  .record
    [("index", .integer segment.index), ("segment_type", .integer segment.segmentType),
      ("flags", .integer segment.flags), ("file_offset", .integer segment.fileOffset),
      ("virtual_address", .integer segment.virtualAddress),
      ("physical_address", .integer segment.physicalAddress),
      ("file_size", .integer segment.fileSize), ("memory_size", .integer segment.memorySize),
      ("alignment", .integer segment.alignment)]

/-- The section as a value. -/
def Section.toValue (header : Section) : Value :=
  .record
    [("index", .integer header.index), ("name_offset", .integer header.nameOffset),
      ("name", .ofOption .text header.name),
      ("name_error", .ofOption Marker.toValue header.nameError),
      ("section_type", .integer header.sectionType), ("flags", .integer header.flags),
      ("address", .integer header.address), ("file_offset", .integer header.fileOffset),
      ("size", .integer header.size), ("link", .integer header.link),
      ("info", .integer header.info), ("address_alignment", .integer header.addressAlignment),
      ("entry_size", .integer header.entrySize)]

/-- The symbol as a value. -/
def Symbol.toValue (symbol : Symbol) : Value :=
  .record
    [("index", .integer symbol.index), ("name_offset", .integer symbol.nameOffset),
      ("name", .text symbol.name), ("name_error", .ofOption Marker.toValue symbol.nameError),
      ("value", .integer symbol.value), ("size", .integer symbol.size),
      ("binding", .integer symbol.binding), ("symbol_type", .integer symbol.symbolType),
      ("visibility", .integer symbol.visibility), ("section_index", .integer symbol.sectionIndex)]

/-- The symbol table as a value. -/
def SymbolTable.toValue (table : SymbolTable) : Value :=
  .record
    [("section_index", .integer table.sectionIndex), ("section_name", .text table.sectionName),
      ("section_type", .integer table.sectionType),
      ("symbols", .list (table.symbols.map Symbol.toValue)),
      ("error", .ofOption Marker.toValue table.error)]

/-- The entry of the dynamic table as a value. -/
def DynamicEntry.toValue (entry : DynamicEntry) : Value :=
  .record
    [("tag", .integer entry.tag), ("value", .integer entry.value),
      ("name", .ofOption .text entry.name),
      ("name_error", .ofOption Marker.toValue entry.nameError)]

/-- The dump as a value, followed by all its markers. -/
def Dump.toValue (dump : Dump) : Value :=
  .record
    [("path", .text dump.path), ("size", .integer dump.size),
      ("identity", dump.identity.toValue), ("header", dump.header.toValue),
      ("segments", .list (dump.segments.map Segment.toValue)),
      ("sections", .list (dump.sections.map Section.toValue)),
      ("segment_sections",
        .list (dump.segmentSections.map fun members => .list (members.map .integer))),
      ("symbol_tables", .list (dump.symbolTables.map SymbolTable.toValue)),
      ("dynamic", .list (dump.dynamic.map DynamicEntry.toValue)),
      ("warnings", .list (dump.warnings.map Marker.toValue)),
      ("has_warnings", .boolean dump.hasWarnings),
      ("markers", .list (dump.markers.map Marker.toValue))]

/-- A file that could not be decoded. -/
structure Failure where
  /-- The path as it was given. -/
  path : String
  /-- The reason. -/
  message : String
  deriving DecidableEq, Repr

/-- The failure as a value. -/
def Failure.toValue (failure : Failure) : Value :=
  .record [("path", .text failure.path), ("error", .text failure.message)]

/-- The account of a run. -/
structure Report where
  /-- The time of the run. -/
  time : String
  /-- The dumps in the order of the files. -/
  dumps : List Dump
  /-- The failures in the order of the files. -/
  failures : List Failure

namespace Report

/-- The version of the program that reports name. -/
def programVersion : String := "1.0.0"

/-- The report as a value. -/
def toValue (report : Report) : Value :=
  .record
    [("report_type", .text "elfdump"), ("version", .text programVersion),
      ("generated_at", .text report.time), ("files", .list (report.dumps.map Dump.toValue)),
      ("failures", .list (report.failures.map Failure.toValue))]

/-- The lines of the report as JSON. -/
def lines (report : Report) : List String := report.toValue.json.splitOn "\n"

end Report
end ElfInspect

import ElfInspect.Console
import ElfInspect.Dump

/-!
# Display of dumps

A dump is shown part by part as tables.  A damaged entity stays in its place, with the kind of its
fault instead of its name, and the warnings about whole tables come last.  Each name is escaped by
itself, so that none of its characters is taken for a mark.
-/

namespace ElfInspect

/-- The parts of a dump that are shown. -/
structure Parts where
  /-- The file header. -/
  fileHeader : Bool := false
  /-- The program headers. -/
  programHeaders : Bool := false
  /-- The section headers. -/
  sectionHeaders : Bool := false
  /-- All symbol tables. -/
  symbols : Bool := false
  /-- The symbol tables of the dynamic linker. -/
  dynamicSymbols : Bool := false
  /-- The dynamic table. -/
  dynamic : Bool := false
  deriving DecidableEq, Repr

namespace Parts

/-- All parts. -/
def everything : Parts := ⟨true, true, true, true, true, true⟩

/-- Whether any part is chosen. -/
def any (parts : Parts) : Bool :=
  parts.fileHeader || parts.programHeaders || parts.sectionHeaders || parts.symbols ||
    parts.dynamicSymbols || parts.dynamic

/-- The parts, or all of them if none is chosen. -/
def orEverything (parts : Parts) : Parts := if parts.any then parts else everything

end Parts

namespace Display

/-- What stands in place of a damaged name or table. -/
def corrupt (marker : Marker) : String :=
  Markup.mark "dump.corrupt" ("<corrupt: " ++ Markup.escape marker.kind ++ ">")

/-- A name cut to a width, its last character then a tilde; a width of zero or less cuts nothing. -/
def cut (width : Int) (name : String) : String :=
  if 0 < width ∧ width < name.length then
    String.ofList (name.toList.take (width - 1).toNat) ++ "~"
  else name

/-- The cell of a name. -/
def nameCell (width : Int) (name : String) : Option Marker → String
  | some marker => corrupt marker
  | none => Markup.escape (cut width name)

/-- The cell of a code. -/
def codeCell (kind : CodeKind) (code : Int) : String := Markup.escape (kind.describe code)

/-- The number of digits of an address. -/
def addressDigits (addressClass : AddressClass) : Nat := 2 * addressClass.bytes

/-- The cell of an address. -/
def address (addressClass : AddressClass) (value : Int) : String :=
  Numeral.hexFill (addressDigits addressClass) value

/-- A hexadecimal number after its sign of base. -/
def hex (value : Int) : String := "0x" ++ Numeral.hex value

/-- A decimal number filled up with blanks in front. -/
def rightDecimal (width : Nat) (value : Int) : String :=
  let digits := toString value
  String.ofList (Line.blanks (width - digits.length)) ++ digits

/-! ## File header -/

/-- The phrase for a byte order. -/
def dataEncoding : ByteOrder → String
  | .little => "2's complement, little endian"
  | .big => "2's complement, big endian"

/-- The identification block as hexadecimal bytes. -/
def magic (ident : List UInt8) : String :=
  " ".intercalate (ident.map fun byte => Numeral.hexFill 2 byte.toNat)

/-- The version of the format; the only one defined is the current one. -/
def identVersion (version : Nat) : String :=
  toString version ++ if version = 1 then " (current)" else ""

/-- The identification block and the file header. -/
def fileHeader (screen : Screen) (dump : Dump) : Page :=
  let identity := dump.identity
  let header := dump.header
  Console.heading screen "ELF Header" (Markup.escape dump.path) ++
    Console.print screen
      ("  " ++ Markup.mark "dump.label" "Magic" ++ ":   " ++ magic identity.ident) ++
    Console.keyValues screen
      [("Class", "ELF" ++ toString identity.addressClass.bits),
        ("Data", dataEncoding identity.byteOrder),
        ("Version", identVersion identity.version),
        ("OS/ABI", CodeKind.osAbi.describe identity.osAbi),
        ("ABI Version", toString identity.abiVersion),
        ("Type", CodeKind.objectType.describe header.objectType),
        ("Machine", CodeKind.machine.describe header.machine),
        ("Version", hex header.version),
        ("Entry point address", hex header.entryPoint),
        ("Start of program headers",
          toString header.programHeaderOffset ++ " (bytes into file)"),
        ("Start of section headers",
          toString header.sectionHeaderOffset ++ " (bytes into file)"),
        ("Flags", hex header.flags),
        ("Size of this header", toString header.headerSize ++ " (bytes)"),
        ("Size of program headers", toString header.programHeaderEntrySize ++ " (bytes)"),
        ("Number of program headers", toString header.programHeaderCount),
        ("Size of section headers", toString header.sectionHeaderEntrySize ++ " (bytes)"),
        ("Number of section headers", toString header.sectionHeaderCount),
        ("Section header string table index", toString header.sectionNameStringTableIndex)]

/-! ## Section headers -/

/-- The columns of the section headers. -/
def sectionColumns : List Column :=
  [.right "[Nr]", .left "Name", .left "Type", .left "Address", .left "Off",
    .left "Size", .left "ES", .right "Flg", .right "Lk", .right "Inf",
    .right "Al"]

/-- The row of a section. -/
def sectionRow (addressClass : AddressClass) (nameWidth : Int) (header : Section) : List String :=
  ["[" ++ rightDecimal 2 header.index ++ "]",
    nameCell nameWidth (header.name.getD "") header.nameError,
    codeCell .sectionType header.sectionType,
    address addressClass header.address,
    Numeral.hexFill 6 header.fileOffset,
    Numeral.hexFill 6 header.size,
    Numeral.hexFill 2 header.entrySize,
    SectionFlags.text header.flags,
    toString header.link,
    toString header.info,
    toString header.addressAlignment]

/-- The explanation of the key letters of section flags. -/
def flagKey : String :=
  "Key to Flags: W (write), A (alloc), X (execute), M (merge), S (strings), I (info), " ++
    "L (link order), O (extra OS processing required), G (group), T (TLS), C (compressed), " ++
    "E (exclude), x (unknown)"

/-- The section headers.  Writing stops at the first name that has to be cut to a width that is no
number. -/
def sectionHeaders (screen : Screen) (nameWidth : Option Int) (dump : Dump) : Page :=
  let top :=
    Console.print screen
        ("There are " ++ toString dump.sections.length ++ " section headers, starting at offset " ++
          hex dump.header.sectionHeaderOffset ++ ":") ++
      Console.blank ++ Console.heading screen "Section Headers"
  if dump.sections.isEmpty then
    top ++ Console.info screen "There are no sections in this file."
  else if nameWidth.isNone && dump.sections.any fun header => header.nameError.isNone then
    top ++ .stop .nameWidth
  else
    top ++
      Console.grid screen sectionColumns
        (dump.sections.map (sectionRow dump.identity.addressClass (nameWidth.getD 0))) ++
      Console.print screen (Markup.mark "dump.dim" flagKey)

/-! ## Program headers -/

/-- The columns of the program headers. -/
def segmentColumns : List Column :=
  [.left "Type", .left "Offset", .left "VirtAddr", .left "PhysAddr",
    .left "FileSiz", .left "MemSiz", .left "Flg", .left "Align"]

/-- The row of a segment. -/
def segmentRow (addressClass : AddressClass) (segment : Segment) : List String :=
  [codeCell .segmentType segment.segmentType,
    "0x" ++ Numeral.hexFill 6 segment.fileOffset,
    "0x" ++ address addressClass segment.virtualAddress,
    "0x" ++ address addressClass segment.physicalAddress,
    "0x" ++ Numeral.hexFill 6 segment.fileSize,
    "0x" ++ Numeral.hexFill 6 segment.memorySize,
    SegmentFlags.text segment.flags,
    hex segment.alignment]

/-- The names of the sections inside a segment, each escaped before they are joined.  The index of a
section is its place in the table. -/
def memberNames (sections : Array Section) (members : List Int) : String :=
  " ".intercalate
    (members.filterMap fun member =>
      sections[member.toNat]?.map fun header => Markup.escape header.displayName)

/-- The row of a segment with the names of the sections inside it. -/
def mappingRow (sections : Array Section) (index : Nat) (members : List Int) : List String :=
  [Numeral.decimalFill 2 index, memberNames sections members]

/-- The program headers and the sections inside each segment. -/
def programHeaders (screen : Screen) (dump : Dump) : Page :=
  let top :=
    Console.print screen ("Elf file type is " ++ codeCell .objectType dump.header.objectType) ++
      Console.print screen ("Entry point " ++ hex dump.header.entryPoint) ++
      Console.print screen
        ("There are " ++ toString dump.segments.length ++
          " program headers, starting at offset " ++
          toString dump.header.programHeaderOffset) ++
      Console.blank ++ Console.heading screen "Program Headers"
  if dump.segments.isEmpty then
    top ++ Console.info screen "There are no program headers in this file."
  else
    top ++
      Console.grid screen segmentColumns
        (dump.segments.map (segmentRow dump.identity.addressClass)) ++
      Console.blank ++ Console.heading screen "Section to Segment mapping" ++
      Console.grid screen [.left "Segment", .left "Sections..."]
        (dump.segmentSections.mapIdx (mappingRow dump.sections.toArray))

/-! ## Dynamic table -/

/-- What an entry of the dynamic table stands for. -/
def dynamicValue (entry : DynamicEntry) : String :=
  match entry.nameError, entry.name with
  | some marker, _ => corrupt marker
  | none, some name => Markup.escape name
  | none, none => hex entry.value

/-- The row of an entry of the dynamic table, its tag as a word of eight bytes. -/
def dynamicRow (entry : DynamicEntry) : List String :=
  ["0x" ++ Numeral.hexFill 16 (entry.tag % 0x10000000000000000),
    "(" ++ codeCell .dynamicTag entry.tag ++ ")",
    dynamicValue entry]

/-- How many entries a table has. -/
def entryCount (count : Nat) : String := "contains " ++ toString count ++ " entries"

/-- The dynamic table. -/
def dynamic (screen : Screen) (dump : Dump) : Page :=
  if dump.dynamic.isEmpty then Console.info screen "There is no dynamic section in this file."
  else
    Console.heading screen "Dynamic section" (entryCount dump.dynamic.length) ++
      Console.grid screen [.left "Tag", .left "Type", .left "Name/Value"]
        (dump.dynamic.map dynamicRow)

/-! ## Symbols -/

/-- The columns of a symbol table. -/
def symbolColumns : List Column :=
  [.right "Num:", .left "Value", .right "Size", .left "Type", .left "Bind",
    .left "Vis", .right "Ndx", .left "Name"]

/-- The row of a symbol. -/
def symbolRow (addressClass : AddressClass) (nameWidth : Int) (symbol : Symbol) : List String :=
  [toString symbol.index ++ ":",
    address addressClass symbol.value,
    toString symbol.size,
    codeCell .symbolType symbol.symbolType,
    codeCell .binding symbol.binding,
    codeCell .visibility symbol.visibility,
    SectionIndex.text symbol.sectionIndex,
    nameCell nameWidth symbol.name symbol.nameError]

/-- A symbol table.  Writing stops at the first name that has to be cut to a width that is no
number. -/
def symbolTable (screen : Screen) (addressClass : AddressClass) (nameWidth : Option Int)
    (table : SymbolTable) : Page :=
  let top :=
    Console.heading screen ("Symbol table '" ++ Markup.escape table.sectionName ++ "'")
      (entryCount table.symbols.length)
  match table.error with
  | some marker =>
      top ++ Console.warning screen (corrupt marker ++ " " ++ Markup.escape marker.message)
  | none =>
      if nameWidth.isNone && table.symbols.any fun symbol => symbol.nameError.isNone then
        top ++ .stop .nameWidth
      else
        top ++ Console.grid screen symbolColumns
          (table.symbols.map (symbolRow addressClass (nameWidth.getD 0)))

/-- The symbol tables of the sections of given kinds. -/
def symbolTables (screen : Screen) (nameWidth : Option Int) (kinds : List Int) (dump : Dump) :
    Page :=
  let tables := dump.symbolTables.filter fun table => kinds.contains table.sectionType
  if tables.isEmpty then Console.info screen "No symbol tables in this file."
  else
    Console.separate (tables.map (symbolTable screen dump.identity.addressClass nameWidth))

/-! ## Whole dumps -/

/-- The chosen parts in the order of display. -/
def pages (screen : Screen) (nameWidth : Option Int) (parts : Parts) (dump : Dump) : List Page :=
  (if parts.fileHeader then [fileHeader screen dump] else []) ++
    (if parts.sectionHeaders then [sectionHeaders screen nameWidth dump] else []) ++
    (if parts.programHeaders then [programHeaders screen dump] else []) ++
    (if parts.dynamic then [dynamic screen dump] else []) ++
    (if parts.symbols then
        [symbolTables screen nameWidth [SectionType.symtab, SectionType.dynsym] dump]
      else if parts.dynamicSymbols then
        [symbolTables screen nameWidth [SectionType.dynsym] dump]
      else [])

/-- The warnings about tables that could not be decoded. -/
def warnings (screen : Screen) (dump : Dump) : Page :=
  if dump.warnings.isEmpty then {}
  else
    Console.blank ++
      .concat (dump.warnings.map fun marker =>
        Console.warning screen
          (Markup.escape marker.field ++ ": " ++ Markup.escape marker.message))

/-- The chosen parts of a dump, names cut to a width; no width is given if it is no number. -/
def page (screen : Screen) (nameWidth : Option Int) (parts : Parts) (dump : Dump) : Page :=
  Console.separate (pages screen nameWidth parts dump) ++ warnings screen dump

end Display
end ElfInspect

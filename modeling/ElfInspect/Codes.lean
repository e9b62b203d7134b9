import ElfInspect.Text.Numeral

/-!
# Names of codes

Decoding keeps every code as a number.  The tables of this module give the names under which codes
are shown; a code without a name is shown as a number.
-/

namespace ElfInspect

namespace SectionType

/-- An unused section header. -/
def null : Int := 0
/-- The symbol table of the link editor. -/
def symtab : Int := 2
/-- The dynamic table. -/
def dynamic : Int := 6
/-- A section that takes no space in the file. -/
def nobits : Int := 8
/-- The symbol table of the dynamic linker. -/
def dynsym : Int := 11

end SectionType

namespace SegmentType

/-- A segment that is loaded into memory. -/
def load : Int := 1
/-- The segment of the dynamic table. -/
def dynamic : Int := 2
/-- Notes. -/
def note : Int := 4
/-- The program header table itself. -/
def programHeaders : Int := 6
/-- The template of thread-local storage. -/
def threadLocal : Int := 7
/-- The frame table for unwinding. -/
def ehFrame : Int := 0x6474E550
/-- A range that becomes read-only after relocation. -/
def relro : Int := 0x6474E552
/-- The first code of memory-bound segments. -/
def mbindLow : Int := 0x6474E555
/-- The last code of memory-bound segments. -/
def mbindHigh : Int := 0x6474F554

end SegmentType

namespace DynamicTag

/-- The end of the dynamic table. -/
def null : Int := 0

/-- The tags whose value is a place in a string table. -/
def named : List Int := [1, 14, 15, 29]

end DynamicTag

/-- The kinds of code that have names. -/
inductive CodeKind where
  | osAbi
  | objectType
  | machine
  | sectionType
  | segmentType
  | binding
  | symbolType
  | visibility
  | dynamicTag
  deriving DecidableEq, Repr

namespace CodeKind

/-- The kind of code with a given name. -/
def ofName? : String → Option CodeKind
  | "osabi" => some osAbi
  | "type" => some objectType
  | "machine" => some machine
  | "section_type" => some sectionType
  | "segment_type" => some segmentType
  | "binding" => some binding
  | "symbol_type" => some symbolType
  | "visibility" => some visibility
  | "dynamic_tag" => some dynamicTag
  | _ => none

/-- The names of the codes of a kind. -/
def names : CodeKind → List (Int × String)
  | osAbi =>
      [(0, "UNIX - System V"), (1, "HP-UX"), (2, "NetBSD"), (3, "Linux"), (4, "GNU Hurd"),
        (6, "Solaris"), (7, "AIX"), (8, "IRIX"), (9, "FreeBSD"), (10, "UNIX - Tru64"),
        (11, "Novell Modesto"), (12, "OpenBSD"), (13, "OpenVMS"), (97, "ARM"),
        (255, "Standalone App")]
  | objectType =>
      [(0, "NONE (None)"), (1, "REL (Relocatable file)"), (2, "EXEC (Executable file)"),
        (3, "DYN (Shared object file)"), (4, "CORE (Core file)")]
  | machine =>
      [(0, "None"), (2, "Sparc"), (3, "Intel 80386"), (4, "MC68000"), (8, "MIPS R3000"),
        (20, "PowerPC"), (21, "PowerPC64"), (22, "IBM S/390"), (40, "ARM"),
        (42, "Renesas / SuperH SH"), (43, "Sparc v9"), (50, "Intel IA-64"),
        (62, "Advanced Micro Devices X86-64"), (183, "AArch64"), (243, "RISC-V"),
        (258, "LoongArch")]
  | sectionType =>
      [(0, "NULL"), (1, "PROGBITS"), (2, "SYMTAB"), (3, "STRTAB"), (4, "RELA"), (5, "HASH"),
        (6, "DYNAMIC"), (7, "NOTE"), (8, "NOBITS"), (9, "REL"), (10, "SHLIB"), (11, "DYNSYM"),
        (14, "INIT_ARRAY"), (15, "FINI_ARRAY"), (16, "PREINIT_ARRAY"), (17, "GROUP"),
        (18, "SYMTAB_SHNDX"), (0x6FFFFFF6, "GNU_HASH"), (0x6FFFFFFD, "VERDEF"),
        (0x6FFFFFFE, "VERNEED"), (0x6FFFFFFF, "VERSYM")]
  | segmentType =>
      [(0, "NULL"), (1, "LOAD"), (2, "DYNAMIC"), (3, "INTERP"), (4, "NOTE"), (5, "SHLIB"),
        (6, "PHDR"), (7, "TLS"), (0x6474E550, "GNU_EH_FRAME"), (0x6474E551, "GNU_STACK"),
        (0x6474E552, "GNU_RELRO"), (0x6474E553, "GNU_PROPERTY")]
  | binding => [(0, "LOCAL"), (1, "GLOBAL"), (2, "WEAK"), (10, "UNIQUE")]
  | symbolType =>
      [(0, "NOTYPE"), (1, "OBJECT"), (2, "FUNC"), (3, "SECTION"), (4, "FILE"), (5, "COMMON"),
        (6, "TLS"), (10, "IFUNC")]
  | visibility => [(0, "DEFAULT"), (1, "INTERNAL"), (2, "HIDDEN"), (3, "PROTECTED")]
  | dynamicTag =>
      [(0, "NULL"), (1, "NEEDED"), (2, "PLTRELSZ"), (3, "PLTGOT"), (4, "HASH"), (5, "STRTAB"),
        (6, "SYMTAB"), (7, "RELA"), (8, "RELASZ"), (9, "RELAENT"), (10, "STRSZ"), (11, "SYMENT"),
        (12, "INIT"), (13, "FINI"), (14, "SONAME"), (15, "RPATH"), (16, "SYMBOLIC"), (17, "REL"),
        (18, "RELSZ"), (19, "RELENT"), (20, "PLTREL"), (21, "DEBUG"), (22, "TEXTREL"),
        (23, "JMPREL"), (24, "BIND_NOW"), (25, "INIT_ARRAY"), (26, "FINI_ARRAY"),
        (27, "INIT_ARRAYSZ"), (28, "FINI_ARRAYSZ"), (29, "RUNPATH"), (30, "FLAGS"),
        (32, "PREINIT_ARRAY"), (33, "PREINIT_ARRAYSZ"), (34, "SYMTAB_SHNDX"),
        (0x6FFFFEF5, "GNU_HASH"), (0x6FFFFFF0, "VERSYM"), (0x6FFFFFFB, "FLAGS_1"),
        (0x6FFFFFFE, "VERNEED"), (0x6FFFFFFF, "VERNEEDNUM")]

/-- The text under which a code of a kind is shown. -/
def describe (kind : CodeKind) (code : Int) : String :=
  (kind.names.lookup code).getD ("unknown (" ++ toString code ++ ")")

end CodeKind

/-- The bit of an integer at a place, in two's complement for negative numbers. -/
def bitAt (value : Int) (place : Nat) : Bool := value >>> place % 2 = 1

namespace SectionFlags

/-- The place of the flag of sections that occupy memory. -/
def allocPlace : Nat := 1

/-- The place of the flag of thread-local sections. -/
def threadLocalPlace : Nat := 10

/-- The key letter of each flag, in the order of writing. -/
def letters : List (Nat × Char) :=
  [(0, 'W'), (1, 'A'), (2, 'X'), (4, 'M'), (5, 'S'), (6, 'I'), (7, 'L'), (8, 'O'), (9, 'G'),
    (10, 'T'), (11, 'C'), (31, 'E')]

/-- The part of the flags that has key letters. -/
def known (flags : Int) : Int :=
  letters.foldr
    (fun letter rest =>
      (if bitAt flags letter.1 then ((1 <<< letter.1 : Nat) : Int) else 0) + rest)
    0

/-- The key letters of section flags, followed by `x` if there are others. -/
def text (flags : Int) : String :=
  String.ofList
    ((letters.filter fun letter => bitAt flags letter.1).map Prod.snd ++
      if flags = known flags then [] else ['x'])

end SectionFlags

namespace SegmentFlags

/-- The letter of each permission, in the order of writing. -/
def letters : List (Nat × Char) := [(2, 'R'), (1, 'W'), (0, 'E')]

/-- The permissions of a segment, a blank for each one it lacks. -/
def text (flags : Int) : String :=
  String.ofList (letters.map fun letter => if bitAt flags letter.1 then letter.2 else ' ')

end SegmentFlags

namespace SectionIndex

/-- The names of indices that stand for no section. -/
def names : List (Int × String) :=
  [(0, "UND"), (0xFFF1, "ABS"), (0xFFF2, "COM"), (0xFFFF, "XINDEX")]

/-- The first index that is reserved. -/
def reserved : Int := 0xFF00

/-- The section index of a symbol as it is shown. -/
def text (index : Int) : String :=
  match names.lookup index with
  | some name => name
  | none =>
      if reserved ≤ index then "RSV[0x" ++ Numeral.hexFill 4 index ++ "]" else toString index

end SectionIndex
end ElfInspect

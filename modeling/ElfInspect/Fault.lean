import ElfInspect.Text.Numeral

/-!
# Recoverable faults

A fault concerns one read, one table or one name.  It never ends the decoding of an image: it is
kept as a marker beside whatever it damaged.
-/

namespace ElfInspect

/-- A range that leaves the data in which it lies. -/
structure Overrun where
  /-- What occupies the range. -/
  subject : String
  /-- Where the range starts. -/
  offset : Int
  /-- How long the range is. -/
  width : Int
  /-- How long the data are. -/
  length : Int
  deriving DecidableEq, Repr

/-- The message that tells of an overrun. -/
def Overrun.message (overrun : Overrun) : String :=
  overrun.subject ++ " of " ++ toString overrun.width ++ " bytes at offset 0x" ++
    Numeral.hex overrun.offset ++ " exceeds buffer length " ++ toString overrun.length

/-- The trace of a fault on what it damaged. -/
structure Marker where
  /-- The kind of the fault. -/
  kind : String
  /-- The damaged field or table. -/
  field : String
  /-- The message of the fault. -/
  message : String
  deriving DecidableEq, Repr

/-- A fault that decoding recovers from. -/
inductive Fault where
  /-- A word of a width other than one, two, four or eight bytes. -/
  | unsupportedWidth (width : Int)
  /-- A range that leaves the image. -/
  | outOfBounds (overrun : Overrun)
  /-- A name outside its string table. -/
  | badStringOffset (offset size : Int)
  /-- A table whose entries are declared to be empty. -/
  | zeroEntrySize (table : String)
  /-- A table whose entries are declared too small for their record. -/
  | shortEntrySize (table : String) (entrySize recordSize : Int)
  deriving DecidableEq, Repr

namespace Fault

/-- The kind of a fault as markers name it. -/
def kind : Fault → String
  | unsupportedWidth _ => "UnsupportedWidth"
  | outOfBounds _ => "OutOfBounds"
  | badStringOffset _ _ => "BadStringOffset"
  | zeroEntrySize _ => "DivisionInvariant"
  | shortEntrySize _ _ _ => "BadEntrySize"

/-- The message that tells of a fault. -/
def message : Fault → String
  | unsupportedWidth width => "unsupported field width: " ++ toString width
  | outOfBounds overrun => overrun.message
  | badStringOffset offset size =>
      "name offset 0x" ++ Numeral.hex offset ++ " is outside the " ++ toString size ++
        "-byte string table"
  | zeroEntrySize table => table ++ " declares an entry size of 0"
  | shortEntrySize table entrySize recordSize =>
      table ++ " entry size " ++ toString entrySize ++ " is smaller than the " ++
        toString recordSize ++ "-byte record"

/-- The trace of a fault on a field or table. -/
def marker (fault : Fault) (field : String) : Marker :=
  { kind := fault.kind, field := field, message := fault.message }

end Fault
end ElfInspect

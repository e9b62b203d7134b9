import ElfInspect.Proofs.Dump.Footprint
import ElfInspect.Proofs.Log

/-!
# The log of a dump

The log accounts for a dump: it tells of the file header, of each table that was given up, of names
that could not be read and of each symbol table, in the order of decoding.  What it tells can be
read off the dump, and how much of it is kept depends on the level of the log alone.
-/

namespace ElfInspect

namespace Dump

/-- The entry about a file header. -/
def headerEntry (identity : Identity) (header : FileHeader) : LogEntry :=
  { severity := .debug
    operation := some "header"
    message :=
      "ELF" ++ toString identity.addressClass.bits ++ " " ++ identity.byteOrder.name ++
        "-endian, " ++ toString header.programHeaderCount ++ " program headers, " ++
        toString header.sectionHeaderCount ++ " section headers" }

/-- The entry about a table that was given up with a warning. -/
def warningEntry (operation announcement : String) (warning : Marker) : LogEntry :=
  { severity := .warning
    operation := some operation
    message := announcement ++ warning.message }

/-- The entry about names of sections that could not be read, if there are such names. -/
def namesEntries (sections : List Section) : List LogEntry :=
  let damaged := sections.filter fun header => header.nameError ≠ none
  if damaged = [] then []
  else
    [{ severity := .warning
       operation := some "sections"
       message := toString damaged.length ++ " section name(s) could not be resolved" }]

/-- The entry about a symbol table: what is wrong with it, or else how many symbols it has. -/
def symbolTableEntry (table : SymbolTable) : LogEntry :=
  match table.error with
  | some error =>
      { severity := .warning
        operation := some "symbols"
        message := "Symbol table " ++ table.sectionName ++ " skipped: " ++ error.message }
  | none =>
      { severity := .debug
        operation := some "symbols"
        message :=
          "Symbol table " ++ table.sectionName ++ ": " ++ toString table.symbols.length ++
            " entries" }

/-- The entries that account for the tables of a dump, in the order of decoding. -/
def tablesAccount (dump : Dump) : List LogEntry :=
  (dump.warningsOf "program_headers").map
      (warningEntry "segments" "Program header table skipped: ") ++
    (dump.warningsOf "section_headers").map
      (warningEntry "sections" "Section header table skipped: ") ++
    namesEntries dump.sections ++
    dump.symbolTables.map symbolTableEntry ++
    (dump.warningsOf "dynamic").map (warningEntry "dynamic" "Dynamic section skipped: ")

/-- The entries that account for a dump. -/
def account (dump : Dump) : List LogEntry :=
  headerEntry dump.identity dump.header :: dump.tablesAccount

/-- What is logged about the decoding of an image. -/
def label (path : String) : String := "decode " ++ if path.isEmpty then "<memory>" else path

/-- The entries about the outcome of decoding an image, between those for start and completion. -/
def outcomeAccount : Except Rejection Dump → List LogEntry
  | .error _ => []
  | .ok dump => dump.account

/-! ## The steps of decoding -/

open Logged

variable {image : Image} {identity : Identity} {header : FileHeader}

theorem tells_recover {α : Type} (field announcement : String) (outcome : Except Fault (List α)) :
    Tells (recover field announcement outcome)
      (Fault.entries outcome, (Fault.trace? field outcome).toList) fun operation =>
        (Fault.trace? field outcome).toList.map fun warning =>
          { severity := .warning, operation := operation
            message := announcement ++ warning.message } := by
  cases outcome with
  | ok entries => exact tells_pure _
  | error fault => exact (tells_note _ _).giving _

theorem tells_decodeSegments :
    Tells (decodeSegments image identity header)
      (Fault.entries (Segment.decodeTable image header identity),
        (Fault.trace? "program_headers" (Segment.decodeTable image header identity)).toList)
      fun _ =>
        (Fault.trace? "program_headers" (Segment.decodeTable image header identity)).toList.map
          (warningEntry "segments" "Program header table skipped: ") :=
  (tells_recover _ _ _).within "segments"

theorem countBadNames_eq (sections : List Section) :
    countBadNames sections = (sections.filter fun header => header.nameError ≠ none).length := by
  rw [countBadNames, List.countP_eq_length_filter]
  congr 2
  funext header
  cases header.nameError <;> rfl

theorem tells_decodeSections :
    Tells (decodeSections image identity header)
      (namedSections image identity header,
        (Fault.trace? "section_headers" (Section.decodeTable image header identity)).toList)
      fun _ =>
        (Fault.trace? "section_headers" (Section.decodeTable image header identity)).toList.map
            (warningEntry "sections" "Section header table skipped: ") ++
          namesEntries (namedSections image identity header) := by
  have recovered := tells_recover "section_headers" "Section header table skipped: "
    (Section.decodeTable image header identity)
  have remarked := tells_remark (countBadNames (namedSections image identity header) ≠ 0) .warning
    (toString (countBadNames (namedSections image identity header)) ++
      " section name(s) could not be resolved")
    (namedSections image identity header,
      (Fault.trace? "section_headers" (Section.decodeTable image header identity)).toList)
  rw [decodeSections]
  refine (Tells.within "sections" (Tells.bind recovered remarked)).congr ?_
  intro operation
  simp only [namesEntries, countBadNames_eq, ite_not, List.length_eq_zero_iff]
  rfl

theorem tells_noteSymbolTable (table : SymbolTable) :
    Tells (noteSymbolTable table) () fun operation =>
      [{ symbolTableEntry table with operation := operation }] := by
  rw [noteSymbolTable, symbolTableEntry]
  cases table.error with
  | some error => exact tells_note _ _
  | none => exact tells_note _ _

theorem tells_decodeSymbolTables (sections : List Section) :
    Tells (decodeSymbolTables image identity sections)
      (SymbolTable.decodeAll image sections identity) fun _ =>
        (SymbolTable.decodeAll image sections identity).map symbolTableEntry := by
  simp only [decodeSymbolTables]
  refine (Tells.within "symbols" ((tells_forM _ tells_noteSymbolTable).giving _)).congr ?_
  intro operation
  apply List.map_congr_left
  intro table _
  rw [symbolTableEntry]
  cases table.error <;> rfl

theorem tells_decodeDynamic (sections : List Section) :
    Tells (decodeDynamic image identity sections)
      (Fault.entries (DynamicEntry.outcome image sections identity),
        (Fault.trace? "dynamic" (DynamicEntry.outcome image sections identity)).toList)
      fun _ =>
        (Fault.trace? "dynamic" (DynamicEntry.outcome image sections identity)).toList.map
          (warningEntry "dynamic" "Dynamic section skipped: ") := by
  rw [decodeDynamic, DynamicEntry.outcome]
  cases DynamicEntry.findSection? sections with
  | none => exact (tells_pure _).within "dynamic"
  | some found => exact (tells_recover _ _ _).within "dynamic"

/-- The identity and file header of an image, without a log. -/
def headers (image : Image) : Except Rejection (Identity × FileHeader) := do
  let identity ← Identity.decode image
  let header ← FileHeader.decode image identity
  return (identity, header)

theorem tells_decodeHeader (image : Image) :
    Tells (decodeHeader image) (headers image) fun _ =>
      match headers image with
      | .error _ => []
      | .ok (identity, header) => [headerEntry identity header] := by
  simp only [decodeHeader]
  rw [← headers]
  cases headers image with
  | error rejection => exact (tells_pure _).within "header"
  | ok found => exact Tells.within "header" ((tells_note _ _).giving _)

theorem tells_decodeTables (image : Image) (path : String) (identity : Identity)
    (header : FileHeader) :
    Tells (decodeTables image path identity header) (ofHeader image path identity header) fun _ =>
      (ofHeader image path identity header).tablesAccount := by
  rw [decodeTables]
  refine Tells.congr (Tells.bind tells_decodeSegments (Tells.bind tells_decodeSections
    (Tells.bind (tells_decodeSymbolTables _) (Tells.bind (tells_decodeDynamic _)
      (tells_pure _))))) ?_
  intro operation
  obtain ⟨program_eq, section_eq, dynamic_eq⟩ := warningsOf_ofHeader image path identity header
  simp only [tablesAccount, program_eq, section_eq, dynamic_eq, List.append_assoc,
    List.append_nil]
  rfl

theorem decode_eq_headers (image : Image) (path : String) :
    decode image path =
      (headers image).map fun (identity, header) => ofHeader image path identity header := by
  rw [decode_eq, headers]
  cases identity_eq : Identity.decode image with
  | error rejection => rfl
  | ok identity =>
      simp only [bind, Except.bind]
      cases FileHeader.decode image identity <;> rfl

/-- Whatever the log, decoding an image gives its dump or its rejection, and tells what accounts for
that between the entries for its start and its completion. -/
theorem decodeLogged_eq (image : Image) (path : String) (log : Log) :
    decodeLogged image path log =
      (decode image path, log.write
        (startEntry (label path) log.operation :: outcomeAccount (decode image path) ++
          [completionEntry (label path) log.elapsed log.operation])) := by
  rw [decodeLogged]
  refine Tells.timed (label path) (fun _ => outcomeAccount (decode image path)) ?_ log
  have header_told := tells_decodeHeader image
  rw [decode_eq_headers]
  cases headers_eq : headers image with
  | error rejection =>
      rw [headers_eq] at header_told
      exact Tells.bind header_told (tells_pure _)
  | ok found =>
      rw [headers_eq] at header_told
      refine Tells.congr (Tells.bind header_told
        (Tells.bind (tells_decodeTables image path found.1 found.2) (tells_pure _))) ?_
      intro operation
      simp only [List.append_nil]
      rfl

/-- Every warning of a dump is about one of three tables, in the order of decoding. -/
theorem warnings_eq_warningsOf (image : Image) (path : String) (identity : Identity)
    (header : FileHeader) :
    (ofHeader image path identity header).warnings =
      (ofHeader image path identity header).warningsOf "program_headers" ++
        (ofHeader image path identity header).warningsOf "section_headers" ++
        (ofHeader image path identity header).warningsOf "dynamic" := by
  obtain ⟨program_eq, section_eq, dynamic_eq⟩ := warningsOf_ofHeader image path identity header
  rw [program_eq, section_eq, dynamic_eq]
  rfl

/-- Entries of every severity reach a log at the lowest level. -/
theorem write_eq_of_debug {log : Log} (level_eq : log.level = Severity.debug.level)
    (entries : List LogEntry) :
    log.write entries = { log with entries := log.entries ++ entries } := by
  have all_reach : (entries.filter fun entry => log.accepts entry.severity) = entries := by
    apply List.filter_eq_self.mpr
    intro entry _
    rw [Log.accepts, Log.effectiveLevel, level_eq]
    cases entry.severity <;> rfl
  rw [Log.write, all_reach]

/-- A log at the lowest level tells of the start and the completion of decoding, and between them
accounts for the dump, if there is one.  A log at another level keeps from that what reaches its
level, and neither what is decoded nor the open operation depends on it. -/
theorem log_accounts_for_dump (image : Image) (path tool elapsed : String) (level : Nat) :
    let fresh (level : Nat) : Log := { tool := tool, level := level, elapsed := elapsed }
    let full := (decodeLogged image path (fresh Severity.debug.level)).2
    full.operation = none ∧
      (match decode image path with
        | .error _ =>
            full.entries =
              [startEntry (label path) none, completionEntry (label path) elapsed none]
        | .ok dump =>
            full.entries =
                [startEntry (label path) none] ++ dump.account ++
                  [completionEntry (label path) elapsed none] ∧
              dump.warnings =
                dump.warningsOf "program_headers" ++ dump.warningsOf "section_headers" ++
                  dump.warningsOf "dynamic") ∧
        decodeLogged image path (fresh level) =
          (decode image path,
            { fresh level with
              entries := full.entries.filter fun entry =>
                (if level = 0 then 30 else level) ≤ entry.severity.level }) := by
  intro fresh full
  have full_eq : full = { fresh Severity.debug.level with
      entries := startEntry (label path) none :: outcomeAccount (decode image path) ++
        [completionEntry (label path) elapsed none] } := by
    have written := congrArg Prod.snd (decodeLogged_eq image path (fresh Severity.debug.level))
    rw [write_eq_of_debug rfl] at written
    exact written
  refine ⟨by rw [full_eq], ?_, ?_⟩
  · rw [full_eq]
    cases decoded : decode image path with
    | error rejection => rfl
    | ok dump =>
        obtain ⟨identity, header, _, _, rfl⟩ := decode_eq_ok_iff.mp decoded
        exact ⟨rfl, warnings_eq_warningsOf image path identity header⟩
  · rw [decodeLogged_eq, full_eq]
    rfl

example :
    ((decodeLogged (small 0) "" { tool := "engine", level := 10 }).2.entries.map fun entry =>
        (entry.severity, entry.operation)) =
      [(.debug, none), (.debug, some "header"), (.debug, some "symbols"), (.debug, none)] := by
  decide +kernel

end Dump
end ElfInspect

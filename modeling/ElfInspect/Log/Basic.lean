import ElfInspect.Value.Json

/-!
# Log

A log keeps the entries that reach its level.  An entry belongs to the operation of the log.  An
operation begins and ends through a context, which saves the one before and brings it back.
-/

namespace ElfInspect

/-- How serious a log entry is. -/
inductive Severity where
  | debug
  | info
  | warning
  | error
  | critical
  deriving DecidableEq, Repr

namespace Severity

/-- The number of a severity. -/
def level : Severity → Nat
  | debug => 10
  | info => 20
  | warning => 30
  | error => 40
  | critical => 50

/-- The name of a severity. -/
def name : Severity → String
  | debug => "DEBUG"
  | info => "INFO"
  | warning => "WARNING"
  | error => "ERROR"
  | critical => "CRITICAL"

end Severity

/-- An entry of a log. -/
structure LogEntry where
  /-- How serious the entry is. -/
  severity : Severity
  /-- The operation during which it was written. -/
  operation : Option String := none
  /-- The message. -/
  message : String
  /-- What comes along with the message. -/
  extra : Option Value := none

/-- A reason for which a name gives no level. -/
inductive LevelFault where
  /-- The name is that of the layout of lines. -/
  | layout
  /-- The name is that of the table of all layouts. -/
  | layoutTable
  deriving DecidableEq, Repr

/-- The message that tells why a name gives no level. -/
def LevelFault.message : LevelFault → String
  | layout => "a layout of lines is not a level"
  | layoutTable => "the table of layouts is not a level"

/-- A log of one tool. -/
structure Log where
  /-- The name of the tool. -/
  tool : String
  /-- The level set for the log; zero leaves the choice to the default. -/
  level : Nat
  /-- The text that stands for the time an action takes. -/
  elapsed : String := "0.000 sec"
  /-- The operation of new entries. -/
  operation : Option String := none
  /-- The entries, the oldest first. -/
  entries : List LogEntry := []

/-- A way to begin and end an operation. -/
structure LogContext where
  /-- The operation. -/
  operation : String
  /-- The operation that the log had when this one began last. -/
  previous : Option String := none

namespace Log

/-- The level of logs that set none. -/
def defaultLevel : Nat := 30

/-- The capitals of a letter, where those are ASCII letters.  A ligature has one for each letter
that it joins. -/
def capitals : Char → List Char
  | 'ı' => ['I']
  | 'ſ' => ['S']
  | 'ß' => ['S', 'S']
  | 'ﬀ' => ['F', 'F']
  | 'ﬁ' => ['F', 'I']
  | 'ﬂ' => ['F', 'L']
  | 'ﬃ' => ['F', 'F', 'I']
  | 'ﬄ' => ['F', 'F', 'L']
  | 'ﬅ' => ['S', 'T']
  | 'ﬆ' => ['S', 'T']
  | char => [char.toUpper]

/-- The level with a given name, in any letter case.  Two names stand for something else than a
level; all others mean the default. -/
def levelOfName (name : String) : Except LevelFault Nat :=
  match String.ofList (name.toList.flatMap capitals) with
  | "DEBUG" => .ok 10
  | "INFO" => .ok 20
  | "ERROR" => .ok 40
  | "CRITICAL" => .ok 50
  | "FATAL" => .ok 50
  | "NOTSET" => .ok 0
  | "BASIC_FORMAT" => .error .layout
  | "_STYLES" => .error .layoutTable
  | _ => .ok defaultLevel

/-- The level that an entry has to reach. -/
def effectiveLevel (log : Log) : Nat := if log.level = 0 then defaultLevel else log.level

/-- The name under which a log writes its entries. -/
def name (log : Log) : String := "elfdump." ++ log.tool

/-- A context that saved the operation of the log, and the log with the operation of the context. -/
def enter (log : Log) (context : LogContext) : LogContext × Log :=
  ({ context with previous := log.operation }, { log with operation := some context.operation })

/-- The log with the operation that a context saved. -/
def leave (log : Log) (context : LogContext) : Log := { log with operation := context.previous }

/-- Whether entries of a severity reach the level of the log. -/
def accepts (log : Log) (severity : Severity) : Bool := log.effectiveLevel ≤ severity.level

/-- The log with an entry, if the entry reaches its level. -/
def add (log : Log) (severity : Severity) (message : String) (extra : Option Value := none) :
    Log :=
  if log.accepts severity then
    { log with
      entries := log.entries ++
        [{ severity := severity, operation := log.operation, message := message,
           extra := extra }] }
  else log

end Log

namespace LogEntry

/-- The named parts of an entry in a log, except for its time. -/
def fields (log : Log) (entry : LogEntry) : List (String × Value) :=
  [("level", .text entry.severity.name), ("logger", .text log.name),
    ("message", .text entry.message), ("tool_name", .text log.tool)] ++
    (match entry.operation with
      | none => []
      | some operation => [("operation", .text operation)]) ++
    (match entry.extra with
      | none => []
      | some extra => [("extra", extra)])

/-- A text filled up with blanks to a least width. -/
def blankFill (width : Nat) (content : String) : String :=
  content ++ String.ofList (List.replicate (width - content.length) ' ')

/-- An entry as a line of text, except for its time. -/
def line (log : Log) (entry : LogEntry) : String :=
  blankFill 8 entry.severity.name ++ " | " ++ log.name ++ " | " ++ entry.message

/-- An entry as a line of JSON. -/
def jsonLine (log : Log) (time : String) (entry : LogEntry) : String :=
  (Value.record (("timestamp", .text time) :: entry.fields log)).jsonInline

/-- An entry as a line of a log file. -/
def fileLine (log : Log) (asJson : Bool) (time : String) (entry : LogEntry) : String :=
  if asJson then entry.jsonLine log time else time ++ " | " ++ entry.line log

end LogEntry

/-- An action that may write to a log. -/
abbrev Logged (α : Type) := StateM Log α

namespace Logged

/-- Writes an entry. -/
def note (severity : Severity) (message : String) : Logged Unit :=
  modify fun log => log.add severity message

/-- Runs an action as an operation, in a context of its own. -/
def within {α : Type} (operation : String) (action : Logged α) : Logged α := do
  let context ← modifyGet fun log => log.enter { operation := operation }
  let result ← action
  modify fun log => log.leave context
  return result

/-- Runs an action between entries that tell of its start and its completion. -/
def timed {α : Type} (label : String) (action : Logged α) : Logged α := do
  note .debug ("Started: " ++ label)
  let result ← action
  modify fun log => log.add .debug ("Completed: " ++ label ++ " (" ++ log.elapsed ++ ")")
  return result

end Logged
end ElfInspect

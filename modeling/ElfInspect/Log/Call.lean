import ElfInspect.Log.Basic
import ElfInspect.Log.Template

/-!
# Log calls

A call asks a log for an entry.  It gives a message template with arguments, and named values, most
of which are kept with the entry.  A few names steer the call instead; under one of them, values can
be attached to the entry as parts of its own.  A call that makes no sense fails, but what only
matters for an entry that is written is not looked at otherwise.
-/

namespace ElfInspect

/-- A reason for which a call makes no sense. -/
inductive LogFault where
  /-- A value has the name of a part of the call itself. -/
  | takenName (name : String)
  /-- The attachments are not a record. -/
  | attachmentsNotRecord
  /-- The depth at which the caller is looked for is no number. -/
  | depthNotNumber
  /-- An attachment has the name of a part of every entry. -/
  | reservedName (name : String)
  deriving DecidableEq, Repr

/-- The message that tells why a call makes no sense. -/
def LogFault.message : LogFault → String
  | takenName name => name ++ " is given twice"
  | attachmentsNotRecord => "the attachments are not a record"
  | depthNotNumber => "the depth of the caller is not a number"
  | reservedName name => name ++ " is part of every entry"

/-- The ways to ask for an entry. -/
inductive LogMethod where
  | debug
  | info
  | warning
  | error
  /-- Tells of an error together with its cause. -/
  | exception
  deriving DecidableEq, Repr

/-- How serious the entries are that a method asks for. -/
def LogMethod.severity : LogMethod → Severity
  | debug => .debug
  | info => .info
  | warning => .warning
  | error => .error
  | exception => .error

/-- A call for an entry. -/
structure LogCall where
  /-- The way in which the entry is asked for. -/
  method : LogMethod
  /-- The template of the message. -/
  template : String
  /-- What fills the places of the template. -/
  arguments : List Value := []
  /-- The named values. -/
  named : List (String × Value) := []

namespace LogCall

/-- How serious the entry is. -/
def severity (call : LogCall) : Severity := call.method.severity

/-- The names of the parts of a call besides its named values. -/
def takenNames : List String := ["self", "msg"]

/-- The names of values that steer the call and are not kept with the entry. -/
def controlNames : List String := ["exc_info", "stack_info", "stacklevel", "extra"]

/-- The names of the parts of every entry. -/
def reservedNames : List String :=
  ["message", "asctime", "name", "msg", "args", "levelname", "levelno", "pathname", "filename",
    "module", "exc_info", "exc_text", "stack_info", "lineno", "funcName", "created", "msecs",
    "relativeCreated", "thread", "threadName", "processName", "process"]

/-- The named values that are kept with the entry. -/
def kept (call : LogCall) : List (String × Value) :=
  call.named.filter fun pair => !controlNames.contains pair.1

/-- The attachments of a call; a value that says nothing stands for none. -/
def attachments (call : LogCall) : Except LogFault (List (String × Value)) :=
  match Value.entry? "extra" call.named with
  | none => .ok []
  | some (.record entries) => .ok entries
  | some value => if value.isTruthy then .error .attachmentsNotRecord else .ok []

/-- What comes along with the message: the kept values, or what is attached in their place if there
are none. -/
def extra (call : LogCall) (attached : List (String × Value)) : Option Value :=
  if call.kept.isEmpty then
    match Value.entry? "dump_extra" attached with
    | some .null => none
    | found => found
  else some (.record call.kept)

/-- Refuses named values with a name that is taken. -/
def checkNames (call : LogCall) : Except LogFault Unit :=
  match call.named.find? fun pair => takenNames.contains pair.1 with
  | some (name, _) => .error (.takenName name)
  | none => .ok ()

/-- Refuses what makes no sense for an entry that is written. -/
def checkEntry (call : LogCall) (attached : List (String × Value)) : Except LogFault Unit :=
  if !((Value.entry? "stacklevel" call.named).getD (.integer 1)).isNumber then
    .error .depthNotNumber
  else
    match attached.find? fun pair => reservedNames.contains pair.1 with
    | some (name, _) => .error (.reservedName name)
    | none => .ok ()

/-- The message of a call; without arguments the template stands for itself. -/
def message? (format : Formatter) (call : LogCall) : Option String :=
  if call.arguments.isEmpty then some call.template else format call.template call.arguments

/-- The log after a call.  Nothing is written if the arguments do not fit the template. -/
def run (format : Formatter) (call : LogCall) (log : Log) : Except LogFault Log := do
  call.checkNames
  let attached ← call.attachments
  if log.accepts call.severity then
    call.checkEntry attached
  match call.message? format with
  | none => return log
  | some message => return log.add call.severity message (call.extra attached)

end LogCall

/-- A log with the contexts of a program that uses it. -/
structure LogUse where
  /-- The log. -/
  log : Log
  /-- The contexts by their numbers. -/
  contexts : Nat → LogContext

/-- What a program does with its log. -/
inductive LogStep where
  /-- A context begins its operation. -/
  | enter (context : Nat)
  /-- A context ends its operation. -/
  | leave (context : Nat)
  /-- An entry is asked for. -/
  | ask (call : LogCall)

namespace LogUse

/-- The log and the contexts after one of them began its operation. -/
def enter (use : LogUse) (context : Nat) : LogUse :=
  let (entered, log) := use.log.enter (use.contexts context)
  { log := log
    contexts := fun other => if other = context then entered else use.contexts other }

/-- The log and the contexts after one of them ended its operation. -/
def leave (use : LogUse) (context : Nat) : LogUse :=
  { use with log := use.log.leave (use.contexts context) }

/-- The log and the contexts after a step. -/
def run (format : Formatter) (use : LogUse) : LogStep → Except LogFault LogUse
  | .enter context => .ok (use.enter context)
  | .leave context => .ok (use.leave context)
  | .ask call => (call.run format use.log).map fun log => { use with log := log }

end LogUse
end ElfInspect

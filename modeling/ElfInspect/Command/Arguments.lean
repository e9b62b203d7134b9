import ElfInspect.Display
import ElfInspect.Files.Path

/-!
# Command arguments

The words of a command line are read in two stages.  `Argument.ofWords?` finds out which words are
options, values of options and operands; `Request.ofWords` gathers from them what is asked for.

Options may stand anywhere before a word `--`, behind which all words are operands.  Long options
may carry their value behind an equality sign; short options may share one word.
-/

namespace ElfInspect

/-- An option without a value. -/
inductive Switch where
  | everything
  | fileHeader
  | programHeaders
  | sectionHeaders
  | symbols
  | dynamicSymbols
  | dynamic
  | json
  | verbose
  | version
  | help
  deriving DecidableEq, Repr

/-- An option with a value. -/
inductive Slot where
  /-- The path of the report. -/
  | output
  /-- The path of the settings. -/
  | config
  deriving DecidableEq, Repr

/-- An option of the command. -/
inductive CommandOption where
  | switch (switch : Switch)
  | slot (slot : Slot)
  deriving DecidableEq, Repr

namespace CommandOption

/-- The option with a given long name. -/
def ofName? : String → Option CommandOption
  | "all" => some (.switch .everything)
  | "file-header" => some (.switch .fileHeader)
  | "program-headers" => some (.switch .programHeaders)
  | "segments" => some (.switch .programHeaders)
  | "section-headers" => some (.switch .sectionHeaders)
  | "sections" => some (.switch .sectionHeaders)
  | "syms" => some (.switch .symbols)
  | "symbols" => some (.switch .symbols)
  | "dyn-syms" => some (.switch .dynamicSymbols)
  | "dynamic" => some (.switch .dynamic)
  | "json" => some (.switch .json)
  | "verbose" => some (.switch .verbose)
  | "version" => some (.switch .version)
  | "help" => some (.switch .help)
  | "output" => some (.slot .output)
  | "config" => some (.slot .config)
  | _ => none

/-- The option with a given letter. -/
def ofLetter? : Char → Option CommandOption
  | 'a' => some (.switch .everything)
  | 'h' => some (.switch .fileHeader)
  | 'l' => some (.switch .programHeaders)
  | 'S' => some (.switch .sectionHeaders)
  | 's' => some (.switch .symbols)
  | 'd' => some (.switch .dynamicSymbols)
  | 'D' => some (.switch .dynamic)
  | 'v' => some (.switch .verbose)
  | 'o' => some (.slot .output)
  | 'c' => some (.slot .config)
  | _ => none

end CommandOption

/-- An argument of a command. -/
inductive Argument where
  /-- A word that belongs to no option. -/
  | operand (word : String)
  /-- An option without a value. -/
  | switch (switch : Switch)
  /-- An option with its value. -/
  | value (slot : Slot) (content : String)
  deriving DecidableEq, Repr

namespace Argument

/-- The arguments in a word, and the option whose value the next word is, if the word ends with
one. -/
abbrev Reading := List Argument × Option Slot

/-- A word of letters. -/
def readLetters : List Char → Option Reading
  | [] => some ([], none)
  | letter :: rest =>
      match CommandOption.ofLetter? letter with
      | none => none
      | some (.switch chosen) =>
          (readLetters rest).map fun (arguments, owed) => (.switch chosen :: arguments, owed)
      | some (.slot slot) =>
          if rest.isEmpty then some ([], some slot)
          else some ([.value slot (String.ofList rest)], none)

/-- A word with the name of an option, and with a value behind an equality sign. -/
def readName (word : List Char) : Option Reading :=
  let name := String.ofList (word.takeWhile (· ≠ '='))
  match CommandOption.ofName? name, word.dropWhile (· ≠ '=') with
  | some (.switch chosen), [] => some ([.switch chosen], none)
  | some (.slot slot), [] => some ([], some slot)
  | some (.slot slot), _ :: content => some ([.value slot (String.ofList content)], none)
  | _, _ => none

/-- A word in front of which no `--` stands. -/
def readWord (word : String) : Option Reading :=
  match word.toList with
  | '-' :: '-' :: name => readName name
  | '-' :: letter :: rest => readLetters (letter :: rest)
  | _ => some ([.operand word], none)

/-- The arguments that words make up.  There are none if an option is unknown, has a value that it
does not take, or lacks one. -/
def ofWords? : List String → Option (List Argument)
  | [] => some []
  | "--" :: rest => some (rest.map .operand)
  | word :: rest =>
      match readWord word, rest with
      | none, _ => none
      | some (arguments, none), rest => (ofWords? rest).map (arguments ++ ·)
      | some (_, some _), [] => none
      | some (arguments, some slot), content :: rest =>
          (ofWords? rest).map (arguments ++ .value slot content :: ·)

/-- The word of an operand. -/
def operand? : Argument → Option String
  | operand word => some word
  | _ => none

/-- The value for a slot. -/
def valueOf? (slot : Slot) : Argument → Option String
  | value found content => if found = slot then some content else none
  | _ => none

end Argument

/-- What a run is to do. -/
structure Invocation where
  /-- The paths of the files in order. -/
  files : List String
  /-- The parts to show. -/
  parts : Parts := .everything
  /-- Whether the report is shown instead of the parts. -/
  json : Bool := false
  /-- The path at which the report is to be written. -/
  output : Option String := none
  /-- The path of the settings. -/
  config : Option String := none
  /-- Whether everything is logged. -/
  verbose : Bool := false
  deriving DecidableEq, Repr

namespace Invocation

/-- The parts that arguments choose. -/
def chosenParts (arguments : List Argument) : Parts :=
  let has (switch : Switch) : Bool := arguments.contains (.switch switch)
  if has .everything then .everything
  else
    Parts.orEverything
      { fileHeader := has .fileHeader
        programHeaders := has .programHeaders
        sectionHeaders := has .sectionHeaders
        symbols := has .symbols
        dynamicSymbols := has .dynamicSymbols
        dynamic := has .dynamic }

/-- The last value given for a slot. -/
def lastValue? (slot : Slot) (arguments : List Argument) : Option String :=
  (arguments.filterMap (Argument.valueOf? slot)).getLast?

/-- The invocation that arguments describe. -/
def ofArguments (arguments : List Argument) : Invocation :=
  { files := arguments.filterMap Argument.operand?
    parts := chosenParts arguments
    json := arguments.contains (.switch .json)
    output := lastValue? .output arguments
    config := lastValue? .config arguments
    verbose := arguments.contains (.switch .verbose) }

end Invocation

/-- The paths among the values of options. -/
def Invocation.optionPaths (invocation : Invocation) : List String :=
  invocation.output.toList ++ invocation.config.toList

/-- What a command line asks for. -/
inductive Request where
  /-- A run over files. -/
  | run (invocation : Invocation)
  /-- The version of the program. -/
  | version
  /-- The description of the options. -/
  | help
  /-- An option with a path that no file can have. -/
  | unnameable (path : String)
  /-- Nothing that makes sense. -/
  | misuse
  deriving DecidableEq, Repr

namespace Request

/-- The request for information that an argument makes by itself. -/
def ofArgument? : Argument → Option Request
  | .switch .version => some version
  | .switch .help => some help
  | _ => none

/-- What arguments ask for: the first request for information wins, paths of options have to be
ones, and a run needs a file. -/
def ofArguments (arguments : List Argument) : Request :=
  match arguments.findSome? ofArgument? with
  | some request => request
  | none =>
      let invocation := Invocation.ofArguments arguments
      match invocation.optionPaths.find? fun path => !Path.isNameable path with
      | some path => unnameable path
      | none => if invocation.files.isEmpty then misuse else run invocation

/-- What a command line asks for. -/
def ofWords (words : List String) : Request :=
  match Argument.ofWords? words with
  | none => misuse
  | some arguments => ofArguments arguments

end Request
end ElfInspect

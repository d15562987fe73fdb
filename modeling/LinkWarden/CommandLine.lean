/-!
# The command line

Two options take a value, and there are two switches, besides those that ask for help or for the
version. Nothing may be given twice, and there are no positional arguments.

A value may be attached to its option or stand in the next argument. An option whose value is to
come is settled only when the next option is, or at the end; a fault of the arguments in between
comes first.
-/

namespace LinkWarden

/-- What the arguments ask for. -/
structure Arguments where
  /-- The file with the settings. -/
  config : Option String := none
  /-- Whether example settings are to be shown, and nothing else. -/
  printConfig : Bool := false
  /-- The level of the log, in place of the one in the settings. -/
  logLevel : Option String := none
  /-- Whether the history is to be shown at the end. -/
  dumpJson : Bool := false
  deriving DecidableEq, Repr

/-- Why arguments do not lead to a run. -/
inductive UsageError
  | unknownArgument
  | /-- A value is missing, or empty where it must not be. -/
    invalidValue
  | /-- Something is given twice. -/
    argumentConflict
  | /-- A switch has a value. -/
    tooManyValues
  | displayHelp
  | displayVersion
  deriving DecidableEq, Repr

/-- The version of the program. -/
def programVersion : String := "0.1.0"

/-- How the program is used. -/
def usageText : String :=
  "Usage: lnk-agent [OPTIONS]\n\nOptions:\n" ++
    "  -C, --config <FILE>      Path to configuration file\n" ++
    "      --print-config       Print example configuration and exit\n" ++
    "      --log-level <LEVEL>  Override [general].log_level\n" ++
    "      --dump-json          Print the state log as JSON on shutdown\n" ++
    "  -h, --help               Print help\n" ++
    "  -V, --version            Print version\n"

/-- What is written in place of a run. -/
def UsageError.message : UsageError → String
  | .unknownArgument => "error: unexpected argument\n\n" ++ usageText
  | .invalidValue => "error: a value is required\n\n" ++ usageText
  | .argumentConflict => "error: an argument cannot be used multiple times\n\n" ++ usageText
  | .tooManyValues => "error: unexpected value\n\n" ++ usageText
  | .displayHelp => usageText
  | .displayVersion => "lnk-agent " ++ programVersion ++ "\n"

namespace CommandLine

/-! ### Options -/

/-- An option with a value. -/
inductive ValueOption
  | config
  | logLevel
  deriving DecidableEq, Repr

/-- An option without a value. -/
inductive Switch
  | printConfig
  | dumpJson
  | help
  | version
  deriving DecidableEq, Repr

/-- The options with a value by their long names. -/
def longOptions : List (String × ValueOption) := [("config", .config), ("log-level", .logLevel)]

/-- The switches by their long names. -/
def longSwitches : List (String × Switch) := [
  ("print-config", .printConfig),
  ("dump-json", .dumpJson),
  ("help", .help),
  ("version", .version)]

/-- The options with a value by their letters. -/
def shortOptions : List (Char × ValueOption) := [('C', .config)]

/-- The switches by their letters. -/
def shortSwitches : List (Char × Switch) := [('h', .help), ('V', .version)]

/-- The value of an option in the arguments. -/
def ValueOption.value? (a : Arguments) : ValueOption → Option String
  | .config => a.config
  | .logLevel => a.logLevel

/-- Sets an option. A path must not be empty. -/
def ValueOption.set (v : String) (a : Arguments) : ValueOption → Except UsageError Arguments
  | .config => if v.isEmpty then .error .invalidValue else .ok { a with config := some v }
  | .logLevel => .ok { a with logLevel := some v }

/-- Gives an option its value, if it has one and is given for the first time. -/
def ValueOption.give (o : ValueOption) (v : Option String) (a : Arguments) :
    Except UsageError Arguments :=
  match v with
  | none => .error .invalidValue
  | some v => if (o.value? a).isSome then .error .argumentConflict else o.set v a

/-- Turns a switch on, if it is given for the first time. -/
def Switch.turnOn (a : Arguments) : Switch → Except UsageError Arguments
  | .printConfig =>
    if a.printConfig then .error .argumentConflict else .ok { a with printConfig := true }
  | .dumpJson => if a.dumpJson then .error .argumentConflict else .ok { a with dumpJson := true }
  | .help => .error .displayHelp
  | .version => .error .displayVersion

/-! ### Reading arguments -/

/-- The last option, where it has been left for the next argument to give its value. -/
inductive Unsettled
  | nothing
  | awaits (o : ValueOption)
  | given (o : ValueOption) (value : String)
  deriving DecidableEq, Repr

/-- The arguments so far. -/
structure Progress where
  arguments : Arguments := {}
  unsettled : Unsettled := .nothing
  deriving DecidableEq, Repr

namespace Progress

/-- Settles the last option. -/
def settle (p : Progress) : Except UsageError Arguments :=
  match p.unsettled with
  | .nothing => .ok p.arguments
  | .awaits o => o.give none p.arguments
  | .given o v => o.give (some v) p.arguments

/-- Takes an option whose value may be attached. -/
def takeOption (p : Progress) (o : ValueOption) (attached : Option String) :
    Except UsageError Progress := do
  let a ← p.settle
  match attached with
  | none => .ok { arguments := a, unsettled := .awaits o }
  | some v => .ok { arguments := ← o.give (some v) a }

/-- Takes a switch. -/
def takeSwitch (p : Progress) (s : Switch) : Except UsageError Progress := do
  let a ← p.settle
  .ok { arguments := ← s.turnOn a }

/-- Takes a long option with the value after its equals sign, if there is one. -/
def takeLong (p : Progress) (name : String) (attached : Option String) :
    Except UsageError Progress :=
  match longOptions.lookup name, longSwitches.lookup name with
  | some o, _ => p.takeOption o attached
  | none, some s => if attached.isSome then .error .tooManyValues else p.takeSwitch s
  | none, none => .error .unknownArgument

/-- The value attached to a letter: what follows it, without an equals sign in front. -/
def attachedToLetter : List Char → Option String
  | [] => none
  | '=' :: cs => some (String.ofList cs)
  | cs => some (String.ofList cs)

/-- Takes letters, of which an option with a value takes the rest. -/
def takeShort (p : Progress) : List Char → Except UsageError Progress
  | [] => .ok p
  | c :: cs =>
    match shortOptions.lookup c, shortSwitches.lookup c with
    | some o, _ => p.takeOption o (attachedToLetter cs)
    | none, some s => do takeShort (← p.takeSwitch s) cs
    | none, none => .error .unknownArgument

/-- Takes an argument that is no option. -/
def takePlain (p : Progress) (s : String) : Except UsageError Progress :=
  match p.unsettled with
  | .awaits o => .ok { p with unsettled := .given o s }
  | _ => .error .unknownArgument

/-- A long option before and after its equals sign. -/
def splitLong (cs : List Char) : String × Option String :=
  let name := cs.takeWhile (· != '=')
  match cs.dropWhile (· != '=') with
  | [] => (String.ofList name, none)
  | _ :: v => (String.ofList name, some (String.ofList v))

/-- Takes an argument. -/
def take (p : Progress) (s : String) : Except UsageError Progress :=
  match s.toList with
  | '-' :: '-' :: cs =>
    let (name, attached) := splitLong cs
    p.takeLong name attached
  | '-' :: c :: cs => p.takeShort (c :: cs)
  | _ => p.takePlain s

/-- Takes the arguments that are left. After two dashes only positional arguments could follow. -/
def takeAll (p : Progress) : List String → Except UsageError Arguments
  | [] => p.settle
  | s :: rest =>
    if s = "--" then
      if rest.isEmpty then p.settle else .error .unknownArgument
    else do takeAll (← p.take s) rest

end Progress

end CommandLine

/-- Reads the arguments of the program, its name left out. -/
def Arguments.read (args : List String) : Except UsageError Arguments :=
  CommandLine.Progress.takeAll {} args

end LinkWarden

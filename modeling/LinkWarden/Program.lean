import LinkWarden.Agent.Autopilot
import LinkWarden.CommandLine
import LinkWarden.Config.Check
import LinkWarden.Config.Example
import LinkWarden.Config.Load

/-!
# The program

What the program does with its arguments before the agent runs: it shows example settings, refuses
the arguments, fails, or goes on to run the agent with the settings that it has loaded.
-/

namespace LinkWarden

/-- Why the agent cannot be run. -/
inductive StartError
  | load (error : LoadError)
  | settings (fault : SettingsFault)
  | link (error : LinkError)
  deriving DecidableEq, Repr

namespace StartError

/-- The error in diagnostics. -/
def debugText : StartError → String
  | .load e => e.debugText
  | .settings fault => Text.quote ("Invalid agent configuration: " ++ fault.message)
  | .link e => Text.quote e.message

/-- What is written about the error. -/
def report (e : StartError) : String := "Error: " ++ e.debugText ++ "\n"

end StartError

/-- Everything that is known when the agent is about to run. -/
structure Run where
  arguments : Arguments
  settings : Settings
  /-- Where the settings were found. -/
  path : Option String

/-- What the program does. -/
inductive Program
  | refuse (error : UsageError)
  | /-- Writes a text, and nothing else. -/
    write (text : String)
  | fail (error : StartError)
  | run (run : Run)

namespace Program

/-- What the program does with arguments, given the files and the user's configuration directory. -/
def ofArguments (files : Files) (userDirectory : Option String) (args : List String) : Program :=
  match Arguments.read args with
  | .error e => .refuse e
  | .ok a =>
    if a.printConfig then .write (Settings.sample.toml ++ "\n")
    else match Settings.load files userDirectory a.config with
      | .error e => .fail (.load e)
      | .ok (settings, path) =>
        match settings.check with
        | .error fault => .fail (.settings fault)
        | .ok () => .run { arguments := a, settings, path }

/-- The status with which the program ends after a restart. -/
def restartStatus : Nat := 75

/-- The status with which the program ends when it cannot run the agent. -/
def failureStatus : Nat := 1

/-- The status with which the program ends when it refuses its arguments; to be asked for help or
for the version is no fault. -/
def refusalStatus : UsageError → Nat
  | .displayHelp => 0
  | .displayVersion => 0
  | _ => 2

end Program

namespace Run

/-- The level of the log. -/
def level (r : Run) : Level := .ofSetting (r.arguments.logLevel.or r.settings.general.logLevel)

/-- What is logged first. -/
def greeting (r : Run) : List LogLine :=
  (r.path.map fun p => LogLine.info ("Loaded configuration from " ++ p)).toList ++
    [.info ("Starting " ++ r.settings.general.device ++ " (" ++ programVersion ++ ")")]

/-- What is logged when the device is restarted. -/
def farewell (r : Run) (h : Option History) : List LogLine :=
  (match h with
    | some h => if r.settings.diagnostics.dumpOnExit then h.dump else []
    | none => []) ++
    [.error ("Restarting (exit status " ++ toString Program.restartStatus ++ ")")]

/-- Whether the run ends with a restart within so many steps. -/
def restarts (r : Run) (steps : Nat) : Bool :=
  let (p, result, seen) := Autopilot.start r.settings
  match result with
  | .error _ => false
  | .ok () => Autopilot.isRestart seen || p.restarts steps

end Run

end LinkWarden

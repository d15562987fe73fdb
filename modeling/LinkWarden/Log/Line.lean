import LinkWarden.Log.Level
import LinkWarden.Observe.Record

/-!
# Log lines

What the program writes to its log: messages with a level, and the records of transitions, which
appear at level `info`.
-/

namespace LinkWarden

/-- One line of the log. -/
inductive LogLine
  | message (level : Level) (text : String)
  | recorded (record : Record)
  deriving DecidableEq, Repr

namespace LogLine

def error (text : String) : LogLine := .message .error text

def warn (text : String) : LogLine := .message .warn text

def info (text : String) : LogLine := .message .info text

def debug (text : String) : LogLine := .message .debug text

def level : LogLine → Level
  | .message level _ => level
  | .recorded _ => .info

/-- The line after its level. -/
def body : LogLine → String
  | .message _ text => text
  | .recorded r => r.text

/-- The level and the line. -/
def text (l : LogLine) : String := l.level.name ++ " " ++ l.body

end LogLine

end LinkWarden

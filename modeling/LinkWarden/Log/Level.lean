import LinkWarden.Text.Blank

/-!
# Levels of log lines

The five levels, and how one is read from a setting: by its name in any case, or by its number from
1, the most severe, to 5. Anything else means `info`.
-/

namespace LinkWarden

/-- How important a log line is. -/
inductive Level
  | error
  | warn
  | info
  | debug
  | trace
  deriving DecidableEq, Repr

namespace Level

/-- The levels from the most severe on. -/
def all : List Level := [.error, .warn, .info, .debug, .trace]

def name : Level → String
  | .error => "ERROR"
  | .warn => "WARN"
  | .info => "INFO"
  | .debug => "DEBUG"
  | .trace => "TRACE"

/-- The number of a level, 1 for the most severe. -/
def number : Level → Nat
  | .error => 1
  | .warn => 2
  | .info => 3
  | .debug => 4
  | .trace => 5

/-- A letter of the first 128 characters as a capital; every other character as it is. -/
def capital (c : Char) : Char := c.toUpper

/-- A natural number in decimal digits with an optional plus sign in front. -/
def readNumber? (cs : List Char) : Option Nat :=
  let digits := match cs with
    | '+' :: ds => ds
    | ds => ds
  if digits.isEmpty || !digits.all Char.isDigit then none
  else some (digits.foldl (fun n c => n * 10 + (c.toNat - '0'.toNat)) 0)

/-- The level with a number or a name. -/
def read? (s : String) : Option Level :=
  let cs := Text.trimChars s.toList
  match readNumber? cs with
  | some n => all.find? fun l => l.number == n
  | none => all.find? fun l => l.name.toList == cs.map capital

/-- The level that a setting asks for. -/
def ofSetting (setting : Option String) : Level := (setting.bind read?).getD .info

end Level

end LinkWarden

import LinkWarden.Log.Line
import LinkWarden.Ring
import LinkWarden.Text.JsonString

/-!
# The history of transitions

A `History` keeps the latest records of every component that shares it. It can be listed in the log
or exported as a JSON array, which is written with a member to a line.
-/

namespace LinkWarden

/-- The latest transitions of all components. -/
structure History where
  ring : Ring Record

namespace History

/-- A history that keeps so many records, one at least. -/
def empty (capacity : Nat) : History := ⟨.empty capacity⟩

/-- Adds a record, and says so in the log. -/
def append (h : History) (r : Record) : History × LogLine := (⟨(h.ring.push r).1⟩, .recorded r)

/-- The records kept, oldest first. -/
def records (h : History) : List Record := h.ring.toList

def size (h : History) : Nat := h.ring.size

def capacity (h : History) : Nat := h.ring.capacity

/-- A history keeps its capacity when a record is added. -/
@[simp] theorem capacity_append (h : History) (r : Record) :
    (h.append r).1.capacity = h.capacity := by
  simp [append, capacity]

/-- The record with `index` records before it. -/
def get? (h : History) (index : Nat) : Option Record := h.ring.get? index

/-- The latest record kept of a component. -/
def lastFor? (h : History) (component : String) : Option Record :=
  h.records.reverse.find? fun r => r.component == component

/-- Lists the records in the log. -/
def dump (h : History) : List LogLine :=
  let head := "State log: " ++ toString h.records.length ++ " of " ++ toString h.capacity ++
    " records"
  .info head :: h.records.map fun r => .info ("  " ++ r.text)

/-! ### Export -/

/-- A member of a JSON object, its value a string, on a line of its own. -/
def memberLine (key value : String) : List Char :=
  "    ".toList ++ Text.jsonString key ++ [':', ' '] ++ Text.jsonString value

/-- Lines with a comma after all but the last. -/
def joinLines : List (List Char) → List Char
  | [] => []
  | [l] => l
  | l :: ls => l ++ [',', '\n'] ++ joinLines ls

/-- A record as a JSON object, indented by two blanks. -/
def recordJson (r : Record) : List Char :=
  "  ".toList ++ ['\x7b', '\n'] ++
    joinLines [
      memberLine "component_id" r.component,
      memberLine "from" r.before,
      memberLine "to" r.after,
      memberLine "logged_at" r.time.exactText] ++
    ['\n'] ++ "  ".toList ++ ['\x7d']

/-- The records as a JSON array. -/
def recordsJson (rs : List Record) : List Char :=
  if rs.isEmpty then ['[', ']']
  else ['[', '\n'] ++ joinLines (rs.map recordJson) ++ ['\n', ']']

/-- The history as a JSON array. -/
def json (h : History) : String := String.ofList (recordsJson h.records)

end History

end LinkWarden

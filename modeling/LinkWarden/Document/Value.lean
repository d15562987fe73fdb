import LinkWarden.Number.Binary64

/-!
# Document values

The tree that a configuration document stands for, whichever format it was written in. A table holds
its entries in ascending order of their keys, and no key twice.
-/

namespace LinkWarden

/-- A node of a document. -/
inductive Value
  | null
  | bool (b : Bool)
  | int (n : Int)
  | float (x : Binary64)
  | text (s : String)
  | /-- A date, a time of day or both, by its text. -/
    moment (s : String)
  | seq (items : List Value)
  | table (entries : List (String × Value))
  deriving Repr

namespace Value

/-- Puts an entry in its place among sorted ones, instead of an entry with its key. -/
def insertEntry (key : String) (v : Value) : List (String × Value) → List (String × Value)
  | [] => [(key, v)]
  | (k, w) :: rest =>
    if key = k then (key, v) :: rest
    else if key < k then (key, v) :: (k, w) :: rest
    else (k, w) :: insertEntry key v rest

/-- The table of a list of entries. Of several with one key the last counts. -/
def ofEntries (entries : List (String × Value)) : Value :=
  .table (entries.foldl (fun sorted (k, v) => insertEntry k v sorted) [])

/-- The value under a key. -/
def lookup? (entries : List (String × Value)) (key : String) : Option Value :=
  (entries.find? fun entry => entry.1 == key).map Prod.snd

/-- The kind of a value, as a word. -/
def kind : Value → String
  | .null => "null"
  | .bool _ => "boolean"
  | .int _ => "integer"
  | .float _ => "float"
  | .text _ => "string"
  | .moment _ => "datetime"
  | .seq _ => "array"
  | .table _ => "table"

end Value

end LinkWarden

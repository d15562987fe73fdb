import LinkWarden.Toml.Assembly
import LinkWarden.Toml.Moment
import LinkWarden.Toml.Number

/-!
# Keys and values in TOML

A key is a sequence of names with points between them. A value is a text, a number, a truth value, a
moment, an array, which may run over several lines and end in a comma, or a table on one line, which
may not. Arrays and tables nest less than eighty deep, and a key has less than eighty names.
-/

namespace LinkWarden.Toml

/-- The bound on nesting. -/
def depthLimit : Nat := 80

/-! ### Keys -/

/-- A character of a name that needs no marks. -/
def isBare (c : Char) : Bool := c.isAlphanum || c == '-' || c == '_'

/-- One name of a key. -/
def name? : List Char → Option (String × List Char)
  | '"' :: cs => (basicFrom .none cs).map fun (name, rest) => (String.ofList name, rest)
  | '\'' :: cs => (literalFrom cs).map fun (name, rest) => (String.ofList name, rest)
  | cs =>
    let name := cs.takeWhile isBare
    if name.isEmpty then none else some (String.ofList name, cs.dropWhile isBare)

/-- The names of a key and the rest after them and the blanks behind; `fuel` bounds how many. -/
def names? : Nat → List Char → Option (List String × List Char)
  | 0, _ => none
  | fuel + 1, cs => do
    let (name, rest) ← name? (skipBlanks cs)
    match skipBlanks rest with
    | '.' :: rest => do
      let (more, rest) ← names? fuel rest
      some (name :: more, rest)
    | rest => some ([name], rest)

/-- A key, with the blanks on both sides of it. -/
def key? (cs : List Char) : Option (List String × List Char) := names? (depthLimit - 1) cs

/-! ### Values -/

/-- A character of a value that is written without marks. -/
def isScalarChar (c : Char) : Bool :=
  c.isAlphanum || c == '_' || c == '+' || c == '-' || c == '.' || c == ':'

/-- Whether characters begin with a date alone, after which a blank may come before the time. -/
def isDate (cs : List Char) : Bool :=
  match date? cs with
  | some (_, []) => true
  | _ => false

/-- The characters of a value without marks: those up to the next character that belongs to none,
and the time of day that follows a date after a blank. -/
def takeScalar (cs : List Char) : List Char × List Char :=
  let first := cs.takeWhile isScalarChar
  let rest := cs.dropWhile isScalarChar
  match rest with
  | ' ' :: d :: more =>
    if isDate first && d.isDigit then
      (first ++ ' ' :: (d :: more).takeWhile isScalarChar, (d :: more).dropWhile isScalarChar)
    else (first, rest)
  | _ => (first, rest)

/-- The value that is written by characters without marks. -/
def scalar (cs : List Char) : Option Value :=
  if cs = "true".toList then some (.bool true)
  else if cs = "false".toList then some (.bool false)
  else match moment? cs with
    | some s => some (.moment s)
    | none =>
      match float? cs with
      | some x => some (.float x)
      | none => (integer? cs).map .int

/-- The items of an array up to its closing bracket; `fuel` bounds how many. -/
def arrayItems (item : List Char → Option (Value × List Char)) :
    Nat → List Char → Option (List Value × List Char)
  | 0, _ => none
  | fuel + 1, cs =>
    match skipLines cs with
    | ']' :: rest => some ([], rest)
    | cs => do
      let (v, rest) ← item cs
      match skipLines rest with
      | ',' :: rest => do
        let (vs, rest) ← arrayItems item fuel rest
        some (v :: vs, rest)
      | ']' :: rest => some ([v], rest)
      | _ => none

/-- An entry of a table: a key, an equals sign and a value. -/
def entry? (item : List Char → Option (Value × List Char)) (cs : List Char) :
    Option ((List String × Value) × List Char) := do
  let (names, rest) ← key? cs
  match rest with
  | '=' :: rest => do
    let (v, rest) ← item (skipBlanks rest)
    some ((names, v), rest)
  | _ => none

/-- The entries of a table on one line up to its closing brace; `fuel` bounds how many. -/
def inlineEntries (item : List Char → Option (Value × List Char)) :
    Nat → List Char → Option (List (List String × Value) × List Char)
  | 0, _ => none
  | fuel + 1, cs => do
    let (e, rest) ← entry? item cs
    match skipBlanks rest with
    | ',' :: rest => do
      let (es, rest) ← inlineEntries item fuel rest
      some (e :: es, rest)
    | '\x7d' :: rest => some ([e], rest)
    | _ => none

/-- The table that is written on one line, after its opening brace. -/
def inlineTable (item : List Char → Option (Value × List Char)) (cs : List Char) :
    Option (Value × List Char) :=
  match skipBlanks cs with
  | '\x7d' :: rest => some (.table [], rest)
  | _ => do
    let (es, rest) ← inlineEntries item (cs.length + 1) cs
    let table ← Node.assignAll es
    some (table, rest)

/-- A value; `depth` bounds how deep arrays and tables nest in it. -/
def value? : Nat → List Char → Option (Value × List Char)
  | depth, cs =>
    match depth, cs with
    | depth + 1, '[' :: rest =>
      (arrayItems (value? depth) (rest.length + 1) rest).map fun (vs, rest) => (.seq vs, rest)
    | depth + 1, '\x7b' :: rest => inlineTable (value? depth) rest
    | _, '"' :: rest => (text? ('"' :: rest)).map fun (s, rest) => (.text (String.ofList s), rest)
    | _, '\'' :: rest => (text? ('\'' :: rest)).map fun (s, rest) => (.text (String.ofList s), rest)
    | _, cs =>
      let (first, rest) := takeScalar cs
      (scalar first).map fun v => (v, rest)

end LinkWarden.Toml

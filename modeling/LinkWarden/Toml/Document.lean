import LinkWarden.Toml.Value

/-!
# TOML documents

A document is a sequence of lines: headers, which open tables, and keys with values, which go into
the table opened last. `Toml.parse?` is the table that a text stands for, if it is a document.
-/

namespace LinkWarden.Toml

/-- A document read so far: the tables, and the names that lead to the table opened last. -/
structure Draft where
  root : Entries
  current : List String

namespace Draft

/-- A document without lines. -/
def empty : Draft := ⟨[], []⟩

/-- Gives a value to a key in the table opened last. -/
def assign (d : Draft) (names : List String) (v : Value) : Option Draft :=
  (Node.within false (Node.assign names v) d.current .header d.root).map fun root =>
    { d with root }

/-- Opens the table that names lead to, in one of the two ways. -/
def openWith (d : Draft) (change : String → Entries → Option Entries) (names : List String) :
    Option Draft :=
  match names.getLast? with
  | none => none
  | some name =>
    (Node.within false (fun _ => change name) names.dropLast .header d.root).map fun root =>
      { root, current := names }

def openTable (d : Draft) : List String → Option Draft := d.openWith Node.openTable

def openNext (d : Draft) : List String → Option Draft := d.openWith Node.openNext

end Draft

/-- A header that opens the next table of an array, after its opening brackets. -/
def nextHeader? (d : Draft) (cs : List Char) : Option (Draft × List Char) := do
  let (names, rest) ← key? cs
  match rest with
  | ']' :: ']' :: rest => do
    let rest ← endOfLine? rest
    let d ← d.openNext names
    some (d, rest)
  | _ => none

/-- A header that opens a table, after its opening bracket. -/
def header? (d : Draft) (cs : List Char) : Option (Draft × List Char) := do
  let (names, rest) ← key? cs
  match rest with
  | ']' :: rest => do
    let rest ← endOfLine? rest
    let d ← d.openTable names
    some (d, rest)
  | _ => none

/-- A key and a value on a line. -/
def assignment? (d : Draft) (cs : List Char) : Option (Draft × List Char) := do
  let ((names, v), rest) ← entry? (value? (depthLimit - 1)) cs
  let rest ← endOfLine? rest
  let d ← d.assign names v
  some (d, rest)

/-- The lines of a document; `fuel` bounds how many. -/
def lines? : Nat → Draft → List Char → Option Draft
  | 0, _, _ => none
  | fuel + 1, d, cs =>
    match skipBlanks cs with
    | [] => some d
    | '#' :: cs => (endOfLine? ('#' :: cs)).bind (lines? fuel d)
    | '\n' :: cs => lines? fuel d cs
    | '\r' :: cs => (newline? ('\r' :: cs)).bind (lines? fuel d)
    | '[' :: '[' :: cs => (nextHeader? d cs).bind fun (d, rest) => lines? fuel d rest
    | '[' :: cs => (header? d cs).bind fun (d, rest) => lines? fuel d rest
    | cs => (assignment? d cs).bind fun (d, rest) => lines? fuel d rest

/-- The characters of a text without a byte order mark in front. -/
def withoutMark (s : String) : List Char :=
  match s.toList with
  | c :: cs => if c.toNat = 0xFEFF then cs else c :: cs
  | [] => []

/-- The entries of the table that a text stands for, if it is a document. -/
def parse? (s : String) : Option (List (String × Value)) :=
  let cs := withoutMark s
  (lines? (cs.length + 1) .empty cs).map fun d =>
    match Value.ofEntries (Node.entryValues d.root) with
    | .table es => es
    | _ => []

end LinkWarden.Toml

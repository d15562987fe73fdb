import LinkWarden.Document.Value

/-!
# Putting the tables of a TOML document together

The lines of a document add to a tree of tables. A table may be opened by a header, or come into
being because a header or a key leads through it. What may still be added to a table depends on how
it came into being: a header may open only a table that other headers lead through, and a key may
lead only through tables that are not opened by a header, and end only in one that keys lead
through.
-/

namespace LinkWarden.Toml

/-- How a table came into being. -/
inductive Origin
  | /-- A header opens it. -/
    header
  | /-- Headers lead through it. -/
    throughHeader
  | /-- Keys lead through it. -/
    throughKey
  deriving DecidableEq, Repr

/-- A node of the tree. -/
inductive Node
  | leaf (v : Value)
  | table (origin : Origin) (entries : List (String × Node))
  | /-- An array of tables, each opened by a header: those before the last, and the last. -/
    tables (earlier : List (List (String × Node))) (last : List (String × Node))

/-- The entries of a table. -/
abbrev Entries := List (String × Node)

namespace Node

/-- The node under a name. -/
def find? (es : Entries) (name : String) : Option Node :=
  (es.find? fun e => e.1 == name).map Prod.snd

/-- The entries with another node under a name. -/
def replace (es : Entries) (name : String) (n : Node) : Entries :=
  es.map fun e => if e.1 == name then (name, n) else e

/-- Changes the table that names lead to, from a table on. Tables that are missing on the way come
into being, by keys or by headers; in an array of tables the way leads through the last one. -/
def within (byKey : Bool) (change : Origin → Entries → Option Entries) :
    List String → Origin → Entries → Option Entries
  | [], origin, es => change origin es
  | name :: names, _, es =>
    match find? es name with
    | none =>
      let origin := if byKey then Origin.throughKey else .throughHeader
      (within byKey change names origin []).map fun sub => es ++ [(name, .table origin sub)]
    | some (.leaf _) => none
    | some (.table origin sub) =>
      if byKey && origin == .header then none
      else (within byKey change names origin sub).map fun sub =>
        replace es name (.table origin sub)
    | some (.tables earlier last) =>
      (within byKey change names .header last).map fun last =>
        replace es name (.tables earlier last)

/-- Puts a value under a name that is free. -/
def putLeaf (name : String) (v : Value) (es : Entries) : Option Entries :=
  if (find? es name).isSome then none else some (es ++ [(name, .leaf v)])

/-- Gives a value to a key in a table. -/
def assign (names : List String) (v : Value) (origin : Origin) (es : Entries) : Option Entries :=
  match names.getLast? with
  | none => none
  | some name =>
    let path := names.dropLast
    within true (fun o sub =>
      if (o == .throughKey) == path.isEmpty then none else putLeaf name v sub) path origin es

/-- Opens a table by a header. -/
def openTable (name : String) (es : Entries) : Option Entries :=
  match find? es name with
  | none => some (es ++ [(name, .table .header [])])
  | some (.table .throughHeader sub) => some (replace es name (.table .header sub))
  | some _ => none

/-- Opens the next table of an array of tables by a header. -/
def openNext (name : String) (es : Entries) : Option Entries :=
  match find? es name with
  | none => some (es ++ [(name, .tables [] [])])
  | some (.tables earlier last) => some (replace es name (.tables (earlier ++ [last]) []))
  | some _ => none

/-! ### The finished tree -/

mutual

/-- The value of a node. -/
def value : Node → Value
  | .leaf v => v
  | .table _ es => .ofEntries (entryValues es)
  | .tables earlier last => .seq (tableValues earlier ++ [.ofEntries (entryValues last)])

/-- The values of the entries of a table. -/
def entryValues : List (String × Node) → List (String × Value)
  | [] => []
  | (name, n) :: es => (name, n.value) :: entryValues es

/-- The values of tables. -/
def tableValues : List (List (String × Node)) → List Value
  | [] => []
  | es :: rest => .ofEntries (entryValues es) :: tableValues rest

end

/-- The table of keys and values on one line. -/
def assignAll (es : List (List String × Value)) : Option Value :=
  (es.foldlM (fun table e => assign e.1 e.2 .header table) ([] : Entries)).map fun table =>
    .ofEntries (entryValues table)

end Node

end LinkWarden.Toml

import LinkWarden.Document.Scalar

/-!
# Decoding structures

A structure with named fields is written as a table or as an array of its fields in order of their
declaration. Either may leave fields out, and these keep the value that they have by default; a
table may also hold keys that are no fields, and they are ignored. The entries of a table are
decoded in the order in which the table holds them, the items of an array from the first.
-/

namespace LinkWarden

/-- A field of a structure: its name, and how a value for it changes the structure. -/
structure Field (σ : Type) where
  name : String
  read : Format → Value → σ → Decoded σ

namespace Field

/-- A field that is decoded by itself and then put in its place. -/
def of {σ α : Type} (name : String) (decode : Format → Value → Decoded α) (put : α → σ → σ) :
    Field σ :=
  { name, read := fun f v s => (decode f v).map fun a => put a s }

/-- A field whose value decodes alike in both formats. -/
def plain {σ α : Type} (name : String) (decode : Value → Decoded α) (put : α → σ → σ) : Field σ :=
  of name (fun _ => decode) put

end Field

namespace Decode

/-- Decodes one entry of a table. -/
def entry {σ : Type} (fields : List (Field σ)) (f : Format) (s : σ) (e : String × Value) :
    Decoded σ :=
  match fields.find? fun field => field.name == e.1 with
  | some field => (field.read f e.2 s).under e.1
  | none => .ok s

/-- Decodes the entries of a table in turn. -/
def entries {σ : Type} (fields : List (Field σ)) (f : Format) :
    List (String × Value) → σ → Decoded σ
  | [], s => .ok s
  | e :: rest, s => do
    let s ← entry fields f s e
    entries fields f rest s

/-- Decodes the items of an array as the fields in order; items beyond the fields are left. -/
def items {σ : Type} (f : Format) : List (Field σ) → List Value → σ → Decoded σ
  | field :: fields, v :: vs, s => do
    let s ← field.read f v s
    items f fields vs s
  | _, _, s => .ok s

/-- Decodes a structure over the values that its fields have by default. -/
def struct {σ : Type} (type : String) (fields : List (Field σ)) (default : σ) (f : Format) :
    Value → Decoded σ
  | .table es => entries fields f es default
  | .seq vs => do
    let s ← items f fields vs default
    if fields.length < vs.length then
      .fail (.invalidLength vs.length "fewer elements in array")
    else .ok s
  | v => mismatch v ("struct " ++ type)

end Decode

end LinkWarden

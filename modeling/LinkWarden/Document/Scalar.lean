import LinkWarden.Document.Fault

/-!
# Decoding single values

Texts, truth values, integers of a fixed width, and choices between named variants. An integer is
never read from a floating-point number, and a number never from a text.
-/

namespace LinkWarden.Decode

/-- A value of another type than the expected one. -/
def mismatch {α : Type} (v : Value) (expected : String) : Decoded α :=
  .fail (.invalidType (.of v) expected)

/-- A text. A point in time can stand for its text. -/
def text : Value → Decoded String
  | .text s => .ok s
  | .moment s => .ok s
  | v => mismatch v "a string"

/-- A text or nothing. -/
def optionalText : Value → Decoded (Option String)
  | .null => .ok none
  | v => (text v).map some

def bool : Value → Decoded Bool
  | .bool b => .ok b
  | v => mismatch v "a boolean"

/-- An integer from `low` to `high`, of the type named. -/
def intWithin (type : String) (low high : Int) : Value → Decoded Int
  | .int n =>
    if low ≤ n ∧ n ≤ high then .ok n else .fail (.invalidValue (.int n) type)
  | v => mismatch v type

def uint16 (v : Value) : Decoded UInt16 :=
  (intWithin "u16" 0 (UInt16.size - 1) v).map fun n => UInt16.ofNat n.toNat

def uint32 (v : Value) : Decoded UInt32 :=
  (intWithin "u32" 0 (UInt32.size - 1) v).map fun n => UInt32.ofNat n.toNat

def uint64 (v : Value) : Decoded UInt64 :=
  (intWithin "u64" 0 (UInt64.size - 1) v).map fun n => UInt64.ofNat n.toNat

/-- A size: an integer of 64 bits by another name. -/
def size (v : Value) : Decoded UInt64 :=
  (intWithin "usize" 0 (UInt64.size - 1) v).map fun n => UInt64.ofNat n.toNat

def int32 (v : Value) : Decoded Int32 :=
  (intWithin "i32" Int32.minValue.toInt Int32.maxValue.toInt v).map Int32.ofInt

/-! ### Variants -/

/-- The variant with a name. -/
def variantNamed {α : Type} (variants : List (String × α)) (name : String) : Decoded α :=
  match variants.find? fun v => v.1 == name with
  | some v => .ok v.2
  | none => .fail (.unknownVariant name (variants.map Prod.fst))

/-- What may stand beside the name of a variant without fields where the variant is written as a
table: an empty array or table. -/
def emptyContent : Value → Decoded Unit
  | .seq [] => .ok ()
  | .table [] => .ok ()
  | .seq _ => .fail (.variantContent "array")
  | .table _ => .fail (.variantContent "table")
  | v => .fail (.variantValue v.kind)

/-- A choice between variants without fields: a name, or a table with the name as its key. Of a TOML
table only the first entry counts, and its value is an empty table or array; a JSON object has one
entry, and its value is null. -/
def variant {α : Type} (f : Format) (variants : List (String × α)) : Value → Decoded α
  | .text s => variantNamed variants s
  | .table entries =>
    match f with
    | .json =>
      match entries with
      | [(name, content)] => do
        let chosen ← variantNamed variants name
        match content with
        | .null => .ok chosen
        | v => mismatch v "unit"
      | _ => .fail (.invalidValue .map "map with a single key")
    | .toml =>
      match entries with
      | [] => .fail .noVariant
      | (name, content) :: _ => do
        let chosen ← variantNamed variants name
        emptyContent content
        .ok chosen
  | v =>
    match f with
    | .json => mismatch v "string or map"
    | .toml => .fail (.invalidType .unitVariant "string only")

/-- A sequence, its items decoded in order. -/
def seqOf {α : Type} (item : Value → Decoded α) : Value → Decoded (List α)
  | .seq items => items.mapM item
  | v => mismatch v "a sequence"

end LinkWarden.Decode

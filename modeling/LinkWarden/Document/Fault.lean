import LinkWarden.Document.Value
import LinkWarden.Number.Shortest
import LinkWarden.Text.Quoted

/-!
# Why a document does not decode

A `Fault` is the cause of a failure and the keys that lead to the place of it. The wording of a
cause depends on the `Format` in one respect only, the text of a floating-point number.
-/

namespace LinkWarden

/-- The format a document was written in. The formats differ in how a choice between named variants
may be written, and in whether a message says where the fault lies. -/
inductive Format
  | json
  | toml
  deriving DecidableEq, Repr

/-- How a format lays out floating-point numbers in messages: one writes them in full, the other
uses powers of ten from 1e16 on and below 1e-5. -/
def Format.floatStyle : Format → Style
  | .json => .between (-4) 16 .evenDigit
  | .toml => .full .larger

/-- What was found where something else was expected. -/
inductive Found
  | null
  | bool (b : Bool)
  | int (n : Int)
  | float (x : Binary64)
  | text (s : String)
  | seq
  | map
  | unitVariant
  deriving DecidableEq, Repr

namespace Found

/-- What a value is found to be. A point in time counts as its text. -/
def of : Value → Found
  | .null => .null
  | .bool b => .bool b
  | .int n => .int n
  | .float x => .float x
  | .text s => .text s
  | .moment s => .text s
  | .seq _ => .seq
  | .table _ => .map

def describe (f : Format) : Found → String
  | .null => "null"
  | .bool b => "boolean " ++ Text.marked (toString b)
  | .int n => "integer " ++ Text.marked (toString n)
  | .float x => "floating point " ++ Text.marked (x.text f.floatStyle)
  | .text s => "string " ++ Text.quote s
  | .seq => "sequence"
  | .map => "map"
  | .unitVariant => "unit variant"

end Found

/-- Why a value does not decode. -/
inductive Cause
  | invalidType (found : Found) (expected : String)
  | invalidValue (found : Found) (expected : String)
  | unknownVariant (name : String) (expected : List String)
  | missingField (name : String)
  | invalidLength (length : Nat) (expected : String)
  | /-- A table without entries where a variant is expected. -/
    noVariant
  | /-- A variant with a value that is no table, of the kind given. -/
    variantValue (kind : String)
  | /-- A variant with an array or a table that is not empty. -/
    variantContent (kind : String)
  deriving DecidableEq, Repr

namespace Cause

/-- The names of the variants, as a message lists them. -/
def listVariants : List String → String
  | [] => "there are no variants"
  | [a] => "expected " ++ Text.marked a
  | [a, b] => "expected " ++ Text.marked a ++ " or " ++ Text.marked b
  | names => "expected one of " ++ ", ".intercalate (names.map Text.marked)

def message (f : Format) : Cause → String
  | .invalidType found expected =>
    "invalid type: " ++ found.describe f ++ ", expected " ++ expected
  | .invalidValue found expected =>
    "invalid value: " ++ found.describe f ++ ", expected " ++ expected
  | .unknownVariant name expected =>
    "unknown variant " ++ Text.marked name ++ ", " ++ listVariants expected
  | .missingField name => "missing field " ++ Text.marked name
  | .invalidLength length expected =>
    "invalid length " ++ toString length ++ ", expected " ++ expected
  | .noVariant => "wanted exactly 1 element, found 0 elements"
  | .variantValue kind => "expected table, found " ++ kind
  | .variantContent kind => "expected empty " ++ kind

end Cause

/-- A cause and the keys from the top of the document to it. -/
structure Fault where
  path : List String
  cause : Cause
  deriving DecidableEq, Repr

namespace Fault

/-- A fault at the value itself. -/
def here (c : Cause) : Fault := ⟨[], c⟩

/-- The same fault, seen from the table that holds the value under a key. -/
def under (key : String) (f : Fault) : Fault := { f with path := key :: f.path }

/-- The message with the place of the fault on a line of its own, every line ended. -/
def located (format : Format) (f : Fault) : String :=
  f.cause.message format ++ "\n" ++
    (if f.path.isEmpty then "" else "in " ++ Text.marked (".".intercalate f.path) ++ "\n")

/-- The message: it says where the fault lies in one of the formats. -/
def message (format : Format) (f : Fault) : String :=
  match format with
  | .json => f.cause.message .json
  | .toml => f.located .toml

end Fault

/-- A value of the type, or a fault. -/
abbrev Decoded (α : Type) := Except Fault α

/-- Fails at the value itself. -/
def Decoded.fail {α : Type} (c : Cause) : Decoded α := .error (.here c)

/-- A decoded value with its faults seen from the table that holds it. -/
def Decoded.under {α : Type} (key : String) : Decoded α → Decoded α
  | .ok a => .ok a
  | .error f => .error (f.under key)

end LinkWarden

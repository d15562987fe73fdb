import LinkWarden.Link.State
import LinkWarden.Number.Shortest
import LinkWarden.Observe.Cell

/-!
# Values of several kinds

A `Reading` is what a component may show: a count, a text, a measurement or the state of a link.
Readings of different kinds differ, and measurements compare as numbers, so one that is not a number
differs from itself.
-/

namespace LinkWarden

/-- A value of one of several kinds. -/
inductive Reading
  | count (n : Int64)
  | text (s : String)
  | measure (x : Binary64)
  | state (s : LinkState)
  deriving Repr

namespace Reading

/-- Whether two readings are the same. -/
def same : Reading → Reading → Bool
  | .count m, .count n => m == n
  | .text s, .text t => s == t
  | .measure x, .measure y => x.equals y
  | .state s, .state t => s == t
  | _, _ => false

instance : BEq Reading := ⟨same⟩

/-- How a measurement is written: powers of ten are used from 1e16 on and below 1e-4. -/
def measureStyle : Style := .between (-3) 16 .larger

/-- The text of a reading. -/
def describe : Reading → String
  | .count n => toString n.toInt
  | .text s => s
  | .measure x => x.text measureStyle
  | .state s => s.name

/-! ### Revisions -/

/-- A sum, held at the ends of the range. -/
def addClamped (m n : Int64) : Int64 :=
  let sum := m.toInt + n.toInt
  if sum < Int64.minValue.toInt then Int64.minValue
  else if Int64.maxValue.toInt < sum then Int64.maxValue
  else Int64.ofInt sum

/-- A function on readings, as data. -/
structure Revision where
  /-- Only this value is revised, if one is given. -/
  onlyFrom : Option Reading := none
  /-- What is added to a count. -/
  increment : Option Int64 := none
  /-- What a value becomes to which nothing is added; it stays if none is given. -/
  replacement : Option Reading := none
  /-- Whether the function fails. -/
  fails : Bool := false

/-- What a revision makes of a value. -/
def Revision.propose (r : Revision) (v : Reading) : Proposal Reading :=
  if r.fails then .fails
  else if r.onlyFrom.any fun expected => !(expected == v) then .keep
  else match v, r.increment with
    | .count n, some k => .becomes (.count (addClamped n k))
    | _, _ =>
      match r.replacement with
      | none => .keep
      | some w => .becomes w

end Reading

end LinkWarden

import LinkWarden.Time.Timestamp

/-!
# Records of transitions

One `Record` for each accepted change of a watched state: which component, from what, to what, and
when.
-/

namespace LinkWarden

/-- An accepted transition of a component. -/
structure Record where
  component : String
  /-- The description of the state before. -/
  before : String
  /-- The description of the state after. -/
  after : String
  /-- When the transition was logged. -/
  time : Timestamp
  deriving DecidableEq, Repr

namespace Record

/-- The record without its time. -/
def summary (r : Record) : String := r.component ++ ": " ++ r.before ++ " -> " ++ r.after

/-- The record with its time in front, to the millisecond. -/
def text (r : Record) : String := "[" ++ r.time.millisText ++ "] " ++ r.summary

end Record

end LinkWarden

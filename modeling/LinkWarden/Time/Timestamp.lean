import LinkWarden.Time.Duration

/-!
# Points in time and their calendar text

A `Timestamp` counts the seconds since the beginning of 1970 in UTC, and the nanoseconds since the
last of them; a nanosecond part of a second or more is a leap second. Its text is the date in the
proleptic Gregorian calendar and the time of day, as `YYYY-MM-DDTHH:MM:SS` with a fraction and `Z`.
-/

namespace LinkWarden

/-- A point in time. -/
structure Timestamp where
  /-- Whole seconds since the beginning of 1970. -/
  seconds : Int
  /-- Nanoseconds since then, below two thousand million; from a thousand million on they lie in a
  leap second. -/
  nanoseconds : Nat
  deriving DecidableEq, Repr

/-- A day of the calendar. -/
structure Date where
  year : Int
  month : Nat
  day : Nat
  deriving DecidableEq, Repr

namespace Date

/-- The date of a day, counted from the first day of 1970.

Years are counted from the first of March here, so that the leap day is the last day of a year, and
in spans of four hundred years, which all have 146097 days. -/
def ofDay (day : Int) : Date :=
  let shifted := day + 719468
  let era := shifted.fdiv 146097
  let dayOfEra := (shifted - era * 146097).toNat
  let yearOfEra := (dayOfEra - dayOfEra / 1460 + dayOfEra / 36524 - dayOfEra / 146096) / 365
  let dayOfYear := dayOfEra - (365 * yearOfEra + yearOfEra / 4 - yearOfEra / 100)
  let monthIndex := (5 * dayOfYear + 2) / 153
  let day := dayOfYear - (153 * monthIndex + 2) / 5 + 1
  let month := if monthIndex < 10 then monthIndex + 3 else monthIndex - 9
  let year := (yearOfEra : Int) + era * 400 + (if month ≤ 2 then 1 else 0)
  { year, month, day }

/-- The text of a year: four digits, and a sign with at least four digits outside 0 to 9999. -/
def yearText (year : Int) : List Char :=
  if year < 0 then '-' :: Duration.padded 4 year.natAbs
  else if 9999 < year then '+' :: Duration.padded 4 year.natAbs
  else Duration.padded 4 year.natAbs

/-- The date as `YYYY-MM-DD`. -/
def text (d : Date) : List Char :=
  yearText d.year ++ '-' :: Duration.padded 2 d.month ++ '-' :: Duration.padded 2 d.day

end Date

namespace Timestamp

/-- The seconds of a day. -/
def daySeconds : Int := 86400

/-- The day, counted from the first day of 1970. -/
def day (t : Timestamp) : Int := t.seconds.fdiv daySeconds

/-- The seconds since the beginning of the day. -/
def secondOfDay (t : Timestamp) : Nat := (t.seconds.fmod daySeconds).toNat

/-- Whether the point lies in a leap second. -/
def isLeap (t : Timestamp) : Bool := 1000000000 ≤ t.nanoseconds

/-- The nanoseconds since the beginning of the second, a leap second counted as one of its own. -/
def fraction (t : Timestamp) : Nat :=
  if t.isLeap then t.nanoseconds - 1000000000 else t.nanoseconds

/-- The date and the time of day to the second, a leap second as second 60. -/
def secondText (t : Timestamp) : List Char :=
  let s := t.secondOfDay
  (Date.ofDay t.day).text ++ 'T' :: Duration.padded 2 (s / 3600) ++
    ':' :: Duration.padded 2 (s / 60 % 60) ++
    ':' :: Duration.padded 2 (s % 60 + if t.isLeap then 1 else 0)

/-- The text to the millisecond, what is beyond it cut off. -/
def millisText (t : Timestamp) : String :=
  String.ofList (t.secondText ++ '.' :: Duration.padded 3 (t.fraction / 1000000) ++ ['Z'])

/-- The exact fraction of the second in as few groups of three digits as hold it. -/
def exactFraction (n : Nat) : List Char :=
  if n = 0 then []
  else if n % 1000000 = 0 then '.' :: Duration.padded 3 (n / 1000000)
  else if n % 1000 = 0 then '.' :: Duration.padded 6 (n / 1000)
  else '.' :: Duration.padded 9 n

/-- The exact text. -/
def exactText (t : Timestamp) : String :=
  String.ofList (t.secondText ++ exactFraction t.fraction ++ ['Z'])

/-- The beginning of 1970. -/
def epoch : Timestamp := ⟨0, 0⟩

end Timestamp

end LinkWarden

import LinkWarden.Time.Duration
import LinkWarden.Toml.Text

/-!
# Dates and times in TOML

A date, a time of day, or both with an offset from UTC or without one. A date is a day of the
calendar. The text of a moment is uniform: a capital `T` between date and time, at most nine places
of a second and no zeros at their end, a capital `Z`.
-/

namespace LinkWarden.Toml

/-- So many decimal digits at the beginning, as a number. -/
def digitsAt? (count : Nat) (cs : List Char) : Option (Nat × List Char) :=
  let ds := cs.take count
  if ds.length = count ∧ ds.all Char.isDigit then
    some (ds.foldl (fun n c => n * 10 + (c.toNat - '0'.toNat)) 0, cs.drop count)
  else none

/-- A number of two digits from `low` to `high`. -/
def twoDigits? (low high : Nat) (cs : List Char) : Option (Nat × List Char) :=
  match digitsAt? 2 cs with
  | some (n, rest) => if low ≤ n ∧ n ≤ high then some (n, rest) else none
  | none => none

/-- The rest after a character. -/
def expect? (c : Char) : List Char → Option (List Char)
  | d :: cs => if d = c then some cs else none
  | [] => none

/-- How many days a month has. -/
def monthLength (year month : Nat) : Nat :=
  if month = 2 then
    if year % 4 = 0 ∧ (year % 100 ≠ 0 ∨ year % 400 = 0) then 29 else 28
  else if month = 4 ∨ month = 6 ∨ month = 9 ∨ month = 11 then 30
  else 31

/-- A date at the beginning, as its text. -/
def date? (cs : List Char) : Option (List Char × List Char) := do
  let (year, cs) ← digitsAt? 4 cs
  let cs ← expect? '-' cs
  let (month, cs) ← twoDigits? 1 12 cs
  let cs ← expect? '-' cs
  let (day, cs) ← twoDigits? 1 (monthLength year month) cs
  some (Duration.padded 4 year ++ '-' :: Duration.padded 2 month ++ '-' :: Duration.padded 2 day, cs)

/-- The places of a second: nine of them count, without the zeros at their end. -/
def placesText (ds : List Char) : List Char :=
  match ((ds.take 9).reverse.dropWhile (· == '0')).reverse with
  | [] => []
  | kept => '.' :: kept

/-- The places of a second from the point on, if there is one. -/
def places? : List Char → Option (List Char × List Char)
  | '.' :: cs =>
    let ds := cs.takeWhile Char.isDigit
    if ds.isEmpty then none else some (placesText ds, cs.dropWhile Char.isDigit)
  | cs => some ([], cs)

/-- A time of day at the beginning, as its text. -/
def time? (cs : List Char) : Option (List Char × List Char) := do
  let (hour, cs) ← twoDigits? 0 23 cs
  let cs ← expect? ':' cs
  let (minute, cs) ← twoDigits? 0 59 cs
  let cs ← expect? ':' cs
  let (second, cs) ← twoDigits? 0 60 cs
  let (places, cs) ← places? cs
  some (Duration.padded 2 hour ++ ':' :: Duration.padded 2 minute ++
    ':' :: Duration.padded 2 second ++ places, cs)

/-- An offset from UTC that takes up the rest, as its text. An offset of nothing is positive. -/
def offset? : List Char → Option (List Char)
  | [] => some []
  | ['Z'] => some ['Z']
  | ['z'] => some ['Z']
  | sign :: cs =>
    if sign = '+' ∨ sign = '-' then do
      let (hours, cs) ← twoDigits? 0 23 cs
      let cs ← expect? ':' cs
      let (minutes, cs) ← twoDigits? 0 59 cs
      let sign := if hours = 0 ∧ minutes = 0 then '+' else sign
      if cs.isEmpty then
        some (sign :: Duration.padded 2 hours ++ ':' :: Duration.padded 2 minutes)
      else none
    else none

/-- A moment that takes up all characters, as its text. -/
def moment? (cs : List Char) : Option String :=
  match date? cs with
  | some (date, []) => some (String.ofList date)
  | some (date, mark :: rest) =>
    if mark = 'T' ∨ mark = 't' ∨ mark = ' ' then do
      let (time, rest) ← time? rest
      let offset ← offset? rest
      some (String.ofList (date ++ 'T' :: time ++ offset))
    else none
  | none =>
    match time? cs with
    | some (time, []) => some (String.ofList time)
    | _ => none

end LinkWarden.Toml

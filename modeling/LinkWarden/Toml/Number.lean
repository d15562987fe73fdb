import LinkWarden.Number.Binary64
import LinkWarden.Toml.Text

/-!
# Numbers in TOML

A number is read from the characters that belong to it. Single underscores may stand between its
digits. An integer without a base mark has no zeros in front and fits in 64 bits with a sign; so
does one in base sixteen, eight or two, which has no sign. A floating-point number has a fraction, a
power of ten or both, or is one of the names `inf` and `nan`.
-/

namespace LinkWarden.Toml

/-- The digits of a sequence of digits in which single underscores may stand between two of them. -/
def groupedDigits? (isDigit : Char → Bool) : List Char → Option (List Char)
  | [] => none
  | [c] => if isDigit c then some [c] else none
  | c :: '_' :: d :: cs =>
    if isDigit c then (groupedDigits? isDigit (d :: cs)).map (c :: ·) else none
  | c :: d :: cs => if isDigit c then (groupedDigits? isDigit (d :: cs)).map (c :: ·) else none

/-- The digits of a natural number without zeros in front. -/
def wholeDigits? (cs : List Char) : Option (List Char) :=
  match groupedDigits? Char.isDigit cs with
  | some ['0'] => some ['0']
  | some ('0' :: _) => none
  | ds => ds

/-- The value of digits in a base. -/
def digitsValue (base : Nat) (ds : List Char) : Nat :=
  ds.foldl (fun n c => n * base + (hexDigit? c).getD 0) 0

/-- An integer that fits in 64 bits with a sign. -/
def fitting? (n : Int) : Option Int :=
  if Int64.minValue.toInt ≤ n ∧ n ≤ Int64.maxValue.toInt then some n else none

/-- The digits of a base below ten. -/
def isDigitBelow (base : Nat) (c : Char) : Bool := c.isDigit && c.toNat - '0'.toNat < base

def integer? : List Char → Option Int
  | '0' :: 'x' :: cs =>
    (groupedDigits? (fun c => (hexDigit? c).isSome) cs).bind fun ds => fitting? (digitsValue 16 ds)
  | '0' :: 'o' :: cs =>
    (groupedDigits? (isDigitBelow 8) cs).bind fun ds => fitting? (digitsValue 8 ds)
  | '0' :: 'b' :: cs =>
    (groupedDigits? (isDigitBelow 2) cs).bind fun ds => fitting? (digitsValue 2 ds)
  | cs =>
    let (negative, rest) := Binary64.takeSign cs
    (wholeDigits? rest).bind fun ds =>
      let n := digitsValue 10 ds
      fitting? (if negative then -(n : Int) else n)

/-- The characters up to the first of some kind, and that one with those behind it. -/
def splitAt (stop : Char → Bool) (cs : List Char) : List Char × List Char :=
  (cs.takeWhile fun c => !stop c, cs.dropWhile fun c => !stop c)

/-- A power of ten from its mark on; nothing at all counts as zero. -/
def power? : List Char → Option Int
  | [] => some 0
  | _ :: cs =>
    let (negative, rest) := Binary64.takeSign cs
    (groupedDigits? Char.isDigit rest).map fun ds =>
      let n := digitsValue 10 ds
      if negative then -(n : Int) else n

/-- The digits of a fraction from its point on; nothing at all counts as none. -/
def fraction? : List Char → Option (List Char)
  | [] => some []
  | _ :: cs => groupedDigits? Char.isDigit cs

/-- A decimal that is no integer. One that is too large for the format is refused, but only above
zero. -/
def decimal? (negative : Bool) (cs : List Char) : Option Binary64 := do
  let (mantissa, tail) := splitAt (fun c => c == 'e' || c == 'E') cs
  let (whole, point) := splitAt (· == '.') mantissa
  if point.isEmpty && tail.isEmpty then none
  else
    let whole ← wholeDigits? whole
    let part ← fraction? point
    let power ← power? tail
    let x := Binary64.ofDecimal negative (digitsValue 10 (whole ++ part)) (power - part.length)
    if x = .infinite false then none else some x

def float? (cs : List Char) : Option Binary64 :=
  let (negative, rest) := Binary64.takeSign cs
  if rest = ['i', 'n', 'f'] then some (.infinite negative)
  else if rest = ['n', 'a', 'n'] then some .nan
  else decimal? negative rest

end LinkWarden.Toml

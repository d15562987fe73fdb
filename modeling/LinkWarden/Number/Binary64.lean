/-!
# Floating-point numbers of 64 bits

A `Binary64` is a number of the binary64 format: a significand below `2 ^ 53` times a power of two,
an infinity, or not a number. It is held by its exact parts, so that rounding, comparison and
printing are integer arithmetic. `ofRatio` rounds a fraction to the nearest such number, a tie to
the even significand; `ofDecimal` and `read?` do so for a decimal.
-/

namespace LinkWarden

/-- A number of the binary64 format. A finite one is `significand * 2 ^ exponent`; its exponent is
`minExponent` or its significand is at least `2 ^ 52`, so that each number has one form. -/
inductive Binary64
  | nan
  | infinite (negative : Bool)
  | finite (negative : Bool) (significand : Nat) (exponent : Int)
  deriving DecidableEq, Repr

namespace Binary64

/-- The exponent of the numbers nearest to zero. -/
def minExponent : Int := -1074

/-- The largest exponent of a finite number. -/
def maxExponent : Int := 971

/-- Zero, with its sign. -/
def zero (negative : Bool) : Binary64 := .finite negative 0 minExponent

/-- Equality of numbers: nothing equals what is not a number, and the two zeros are equal. -/
def equals : Binary64 → Binary64 → Bool
  | .infinite s, .infinite t => s == t
  | .finite s m e, .finite t n f => (m == 0 && n == 0) || (s == t && m == n && e == f)
  | _, _ => false

/-! ### Rounding -/

/-- `num / den`, rounded to the nearest integer, a tie to the even one. -/
def roundQuotient (num den : Nat) : Nat :=
  let q := num / den
  let r := num % den
  if 2 * r < den then q
  else if den < 2 * r then q + 1
  else q + q % 2

/-- `num / den / 2 ^ exponent` as a fraction of naturals. -/
def scaled (num den : Nat) (exponent : Int) : Nat × Nat :=
  if exponent < 0 then (num * Nat.pow 2 (-exponent).toNat, den)
  else (num, den * Nat.pow 2 exponent.toNat)

/-- The exponent at which the fraction `num / den` has a significand of 53 bits, or the least
one. -/
def fittingExponent (num den : Nat) : Int :=
  let e : Int := (Nat.log2 num : Int) - (Nat.log2 den : Int) - 53
  let (n, d) := scaled num den e
  max minExponent (if n / d < Nat.pow 2 53 then e else e + 1)

/-- The number nearest to `num / den`, a tie to the even significand. -/
def ofRatio (negative : Bool) (num den : Nat) : Binary64 :=
  if num = 0 then zero negative
  else
    let e := fittingExponent num den
    let (n, d) := scaled num den e
    let m := roundQuotient n d
    let (m, e) := if m = Nat.pow 2 53 then (Nat.pow 2 52, e + 1) else (m, e)
    if maxExponent < e then .infinite negative else .finite negative m e

/-- The number nearest to `digits * 10 ^ power`. Powers far outside the range of the format are
settled without forming them. -/
def ofDecimal (negative : Bool) (digits : Nat) (power : Int) : Binary64 :=
  let places : Int := ((Nat.toDigits 10 digits).length : Int) + power
  if digits = 0 ∨ places < -330 then zero negative
  else if 310 < places then .infinite negative
  else if power < 0 then ofRatio negative digits (Nat.pow 10 (-power).toNat)
  else ofRatio negative (digits * Nat.pow 10 power.toNat) 1

/-- The number nearest to an integer. -/
def ofInt (n : Int) : Binary64 := ofRatio (n < 0) n.natAbs 1

/-! ### Reading -/

/-- The natural number written by decimal digits. -/
def digitsValue (cs : List Char) : Nat :=
  cs.foldl (fun n c => n * 10 + (c.toNat - '0'.toNat)) 0

/-- An optional sign in front of a text: whether it is a minus, and the rest. -/
def takeSign : List Char → Bool × List Char
  | '+' :: cs => (false, cs)
  | '-' :: cs => (true, cs)
  | cs => (false, cs)

/-- The power of ten behind an exponent mark; nothing at all counts as zero. -/
def readPower? : List Char → Option Int
  | [] => some 0
  | c :: cs =>
    if c = 'e' ∨ c = 'E' then
      let (negative, ds) := takeSign cs
      if ds.isEmpty || !ds.all Char.isDigit then none
      else some (if negative then -(digitsValue ds : Int) else digitsValue ds)
    else none

/-- The number nearest to a decimal without a sign: digits, a point and digits, and a power of ten.
There is a digit before or after the point. -/
def readMagnitude? (negative : Bool) (cs : List Char) : Option Binary64 :=
  let whole := cs.takeWhile Char.isDigit
  let rest := cs.dropWhile Char.isDigit
  let (part, tail) := match rest with
    | '.' :: r => (r.takeWhile Char.isDigit, r.dropWhile Char.isDigit)
    | r => ([], r)
  if whole.isEmpty && part.isEmpty then none
  else (readPower? tail).map fun power =>
    ofDecimal negative (digitsValue (whole ++ part)) (power - part.length)

/-- Reads a number: a sign, and then a decimal or one of the names `inf`, `infinity` and `nan` in
any case. -/
def read? (cs : List Char) : Option Binary64 :=
  let (negative, rest) := takeSign cs
  let name := String.ofList (rest.map Char.toLower)
  if name = "inf" ∨ name = "infinity" then some (.infinite negative)
  else if name = "nan" then some .nan
  else readMagnitude? negative rest

end Binary64

end LinkWarden

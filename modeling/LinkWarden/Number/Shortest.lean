import LinkWarden.Number.Binary64

/-!
# The shortest decimal of a floating-point number

Every decimal in a small interval about a `Binary64` reads back as that number. `Decimal.shortest`
is the decimal of that interval with the fewest digits, and of several such the one nearest to the
number; a `Tie` says which of two equally near ones. A `Style` says how a decimal is laid out: which
sizes are written with a point alone and which with a power of ten.
-/

namespace LinkWarden

/-- Which of two decimals equally near to a number stands for it. -/
inductive Tie
  | larger
  | evenDigit
  deriving DecidableEq, Repr

/-- `digits * 10 ^ power`. -/
structure Decimal where
  digits : Nat
  power : Int
  deriving DecidableEq, Repr

namespace Decimal

/-! ### The digits -/

/-- A positive fraction of naturals. -/
structure Fraction where
  num : Nat
  den : Nat

/-- `significand * 2 ^ exponent` for a multiple of a quarter unit: `quarters * 2 ^ (exponent - 2)`. -/
def Fraction.ofQuarters (quarters : Nat) (exponent : Int) : Fraction :=
  let e := exponent - 2
  if e < 0 then ⟨quarters, Nat.pow 2 (-e).toNat⟩ else ⟨quarters * Nat.pow 2 e.toNat, 1⟩

/-- `digits * 10 ^ power`. -/
def Fraction.ofDecimal (d : Decimal) : Fraction :=
  if d.power < 0 then ⟨d.digits, Nat.pow 10 (-d.power).toNat⟩
  else ⟨d.digits * Nat.pow 10 d.power.toNat, 1⟩

def Fraction.lt (x y : Fraction) : Bool := x.num * y.den < y.num * x.den

def Fraction.le (x y : Fraction) : Bool := x.num * y.den ≤ y.num * x.den

/-- Whether a decimal lies among the reals that round to `significand * 2 ^ exponent`: from halfway
to the neighbour below to halfway to the neighbour above, the ends included when the significand is
even. Below a power of two the neighbour is half as far away. -/
def readsBack (significand : Nat) (exponent : Int) (d : Decimal) : Bool :=
  let below := if significand = Nat.pow 2 52 ∧ Binary64.minExponent < exponent then 1 else 2
  let low := Fraction.ofQuarters (4 * significand - below) exponent
  let high := Fraction.ofQuarters (4 * significand + 2) exponent
  let x := Fraction.ofDecimal d
  if significand % 2 = 0 then low.le x && x.le high else low.lt x && x.lt high

/-- The power of ten just above the fraction: the fraction has its first digit at the place below. -/
def leadingPlace (x : Fraction) : Int :=
  if x.den ≤ x.num then ((Nat.toDigits 10 (x.num / x.den)).length : Int)
  else 1 - ((Nat.toDigits 10 (x.den / x.num)).length : Int)

/-- The two neighbours of a fraction on the grid of the multiples of `10 ^ power`. -/
def neighbours (x : Fraction) (power : Int) : Decimal × Decimal :=
  let q :=
    if power < 0 then x.num * Nat.pow 10 (-power).toNat / x.den
    else x.num / (x.den * Nat.pow 10 power.toNat)
  (⟨q, power⟩, ⟨q + 1, power⟩)

/-- Whether the upper of two neighbours on a grid stands for the fraction rather than the lower. -/
def upperNearer (tie : Tie) (x : Fraction) (lower upper : Decimal) : Bool :=
  let l := Fraction.ofDecimal lower
  let u := Fraction.ofDecimal upper
  -- the fraction against the middle of the two, which have one denominator
  let middle := (l.num + u.num) * x.den
  let twice := 2 * x.num * l.den
  middle < twice || (middle == twice && (tie == .larger || upper.digits % 2 == 0))

/-- The neighbour of the number on one grid that reads back, the nearer one if both do. -/
def onGrid? (tie : Tie) (significand : Nat) (exponent : Int) (power : Int) : Option Decimal :=
  let x := Fraction.ofQuarters (4 * significand) exponent
  let (lower, upper) := neighbours x power
  match readsBack significand exponent lower, readsBack significand exponent upper with
  | true, true => some (if upperNearer tie x lower upper then upper else lower)
  | true, false => some lower
  | false, true => some upper
  | false, false => none

/-- The same decimal without zeros at the end of its digits; `fuel` bounds how many go. -/
def stripZeros : Nat → Decimal → Decimal
  | 0, d => d
  | fuel + 1, d =>
    if d.digits ≠ 0 ∧ d.digits % 10 = 0 then stripZeros fuel ⟨d.digits / 10, d.power + 1⟩ else d

/-- The decimal with the fewest digits that reads back as `significand * 2 ^ exponent`. Seventeen
digits are enough for every number. -/
def shortest (tie : Tie) (significand : Nat) (exponent : Int) : Decimal :=
  if significand = 0 then ⟨0, 0⟩
  else
    let x := Fraction.ofQuarters (4 * significand) exponent
    let place := leadingPlace x
    let found := (List.range 17).findSome? fun (n : Nat) =>
      onGrid? tie significand exponent (place - (n + 1))
    stripZeros 20 (found.getD (neighbours x (place - 17)).1)

end Decimal

/-! ### The layout -/

/-- How a number is laid out. The *size* of a number is the place of its first digit before the
point: 1 for 5.0, 0 for 0.5, -1 for 0.05. -/
structure Style where
  /-- The sizes that are written without a power of ten. -/
  positional : Int → Bool
  /-- The choice between two equally short and equally near decimals. -/
  tie : Tie

namespace Style

/-- Every number is written in full. -/
def full (tie : Tie) : Style := ⟨fun _ => true, tie⟩

/-- Numbers of sizes from `low` to `high` are written in full. -/
def between (low high : Int) (tie : Tie) : Style := ⟨fun size => low ≤ size && size ≤ high, tie⟩

end Style

/-- Decimal digits with a point, so that the first `size` of them stand before it. There is a digit
on both sides of the point. -/
def pointed (digits : List Char) (size : Int) : List Char :=
  if size ≤ 0 then ['0', '.'] ++ List.replicate (-size).toNat '0' ++ digits
  else
    let n := size.toNat
    if digits.length ≤ n then digits ++ List.replicate (n - digits.length) '0' ++ ['.', '0']
    else digits.take n ++ ['.'] ++ digits.drop n

/-- Decimal digits with a power of ten: one digit before the point, and no point if it is alone. -/
def scientific (digits : List Char) (size : Int) : List Char :=
  let head := match digits with
    | [] => ['0']
    | [d] => [d]
    | d :: ds => d :: '.' :: ds
  head ++ ['e'] ++ (toString (size - 1)).toList

/-- The text of a number in a style. -/
def Binary64.text (style : Style) : Binary64 → String
  | .nan => "NaN"
  | .infinite negative => if negative then "-inf" else "inf"
  | .finite negative m e =>
    let sign := if negative then ['-'] else []
    let d := Decimal.shortest style.tie m e
    let digits := Nat.toDigits 10 d.digits
    let size : Int := (digits.length : Int) + d.power
    let body :=
      if m = 0 then ['0', '.', '0']
      else if style.positional size then pointed digits size
      else scientific digits size
    String.ofList (sign ++ body)

end LinkWarden

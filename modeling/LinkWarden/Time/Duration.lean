/-!
# Lengths of time

A `Duration` is a whole number of nanoseconds, up to the largest that seconds in 64 bits and a part
below one second can express. Arithmetic that would go beyond stops at the largest one.
-/

namespace LinkWarden

/-- The number of nanoseconds of the largest duration. -/
def longestNanoseconds : Nat := (UInt64.size - 1) * 1000000000 + 999999999

/-- A length of time. -/
structure Duration where
  /-- The length in nanoseconds. -/
  nanoseconds : Nat
  /-- No duration is longer than the largest one. -/
  le_longest : nanoseconds ≤ longestNanoseconds := by decide
  deriving DecidableEq, Repr

namespace Duration

/-- Durations with as many nanoseconds are the same. -/
@[ext] theorem ext {d e : Duration} (h : d.nanoseconds = e.nanoseconds) : d = e := by
  cases d; cases e; simp_all

/-- So many nanoseconds, or the largest duration if they are more than that. -/
def ofNanoseconds (n : Nat) : Duration := ⟨min n longestNanoseconds, Nat.min_le_right ..⟩

/-- So many milliseconds. -/
def ofMillis (ms : UInt64) : Duration := ofNanoseconds (ms.toNat * 1000000)

/-- So many seconds. -/
def ofSeconds (s : UInt64) : Duration := ofNanoseconds (s.toNat * 1000000000)

/-- The largest duration. -/
def longest : Duration := ⟨longestNanoseconds, Nat.le_refl _⟩

def zero : Duration := ⟨0, Nat.zero_le _⟩

/-- The whole seconds. -/
def seconds (d : Duration) : Nat := d.nanoseconds / 1000000000

/-- The nanoseconds beyond the whole seconds. -/
def subsecond (d : Duration) : Nat := d.nanoseconds % 1000000000

/-- The whole milliseconds. -/
def millis (d : Duration) : Nat := d.nanoseconds / 1000000

instance : LE Duration := ⟨fun d e => d.nanoseconds ≤ e.nanoseconds⟩

instance : LT Duration := ⟨fun d e => d.nanoseconds < e.nanoseconds⟩

instance (d e : Duration) : Decidable (d ≤ e) :=
  inferInstanceAs (Decidable (d.nanoseconds ≤ e.nanoseconds))

instance (d e : Duration) : Decidable (d < e) :=
  inferInstanceAs (Decidable (d.nanoseconds < e.nanoseconds))

/-- The shorter of two durations. -/
def shorter (d e : Duration) : Duration := if e ≤ d then e else d

/-- The longer of two durations. -/
def longer (d e : Duration) : Duration := if d ≤ e then e else d

/-- So many times the duration, or the largest duration if that is more. -/
def times (d : Duration) (n : Nat) : Duration := ofNanoseconds (d.nanoseconds * n)

/-- A number of nanoseconds beyond the longest duration is cut to it. -/
@[simp] theorem nanoseconds_ofNanoseconds (n : Nat) :
    (ofNanoseconds n).nanoseconds = min n longestNanoseconds := rfl

/-- The shorter of two durations has the smaller number of nanoseconds. -/
@[simp] theorem nanoseconds_shorter (d e : Duration) :
    (d.shorter e).nanoseconds = min d.nanoseconds e.nanoseconds := by
  unfold shorter
  split
  · next h => exact (Nat.min_eq_right h).symm
  · next h => exact (Nat.min_eq_left (Nat.le_of_lt (Nat.lt_of_not_le h))).symm

/-- The longer of two durations has the larger number of nanoseconds. -/
@[simp] theorem nanoseconds_longer (d e : Duration) :
    (d.longer e).nanoseconds = max d.nanoseconds e.nanoseconds := by
  unfold longer
  split
  · next h => exact (Nat.max_eq_right h).symm
  · next h => exact (Nat.max_eq_left (Nat.le_of_lt (Nat.lt_of_not_le h))).symm

/-! ### Text -/

/-- A number with zeros in front up to a width. -/
def padded (width n : Nat) : List Char :=
  let digits := Nat.toDigits 10 n
  List.replicate (width - digits.length) '0' ++ digits

/-- A decimal fraction of `width` places: a point and the places without the zeros at the end, or
nothing if all are zero. -/
def fractionText (width n : Nat) : List Char :=
  if n = 0 then []
  else '.' :: ((padded width n).reverse.dropWhile (· == '0')).reverse

/-- The length in the largest of the units s, ms, µs and ns of which it holds a whole one. -/
def text (d : Duration) : String :=
  let n := d.nanoseconds
  String.ofList <|
    if 1000000000 ≤ n then
      Nat.toDigits 10 (n / 1000000000) ++ fractionText 9 (n % 1000000000) ++ ['s']
    else if 1000000 ≤ n then
      Nat.toDigits 10 (n / 1000000) ++ fractionText 6 (n % 1000000) ++ ['m', 's']
    else if 1000 ≤ n then
      Nat.toDigits 10 (n / 1000) ++ fractionText 3 (n % 1000) ++ ['µ', 's']
    else Nat.toDigits 10 n ++ ['n', 's']

end Duration

end LinkWarden

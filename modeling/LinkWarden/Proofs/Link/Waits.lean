import LinkWarden.Link.Retry
import Mathlib.Algebra.Group.Nat.Defs

/-!
# Waits that double

A wait goes through three bounds. The power of two is held at the largest number of 32 bits, the
product of it and the first wait at the largest duration, and what comes of that at the ceiling.

* `Duration.timesInParts` is a product worked out on whole seconds and the part below one second,
  with the carry between them. It is the product (`Duration.times_eq_timesInParts`).
* `multiplier_eq_min` says what the power of two is held at, and `nanoseconds_delay_make` what a
  wait is in numbers without bound.
* `DoublesExactly` lists what follows from that: the waits begin with the first one, never become
  shorter, end at the ceiling, and double until they are there. `doublesExactly_make` is the main
  statement.
-/

namespace LinkWarden

/-! ### Durations in parts -/

namespace Duration

/-- The largest duration is one nanosecond short of as many seconds as there are numbers of 64
bits. -/
theorem longestNanoseconds_add_one : longestNanoseconds + 1 = UInt64.size * 1000000000 := rfl

/-- The whole seconds fit into 64 bits. -/
theorem seconds_lt (d : Duration) : d.seconds < UInt64.size := by
  have hd := d.le_longest
  have hlongest := longestNanoseconds_add_one
  unfold seconds
  omega

/-- The part below one second is less than one second. -/
theorem subsecond_lt (d : Duration) : d.subsecond < 1000000000 := Nat.mod_lt _ (by decide)

/-- A duration is its whole seconds and the part below one second. -/
theorem seconds_mul_add_subsecond (d : Duration) :
    d.seconds * 1000000000 + d.subsecond = d.nanoseconds :=
  Nat.div_add_mod' d.nanoseconds 1000000000

/-- The duration of so many seconds and a part below one second. -/
def ofParts (seconds : UInt64) (subsecond : Fin 1000000000) : Duration where
  nanoseconds := seconds.toNat * 1000000000 + subsecond
  le_longest := by
    have hseconds := seconds.toNat_lt_size
    have hlongest := longestNanoseconds_add_one
    omega

/-- So many times the duration, part by part: the whole seconds that the product of the part below
one second comes to are carried. It is the largest duration if the seconds do not fit. -/
def timesInParts (d : Duration) (n : Nat) : Duration :=
  let product := d.subsecond * n
  if h : d.seconds * n + product / 1000000000 < UInt64.size then
    ofParts (.ofNatLT _ h) ⟨product % 1000000000, Nat.mod_lt _ (by decide)⟩
  else longest

/-- **A product is the one of the parts with the carry.** -/
theorem times_eq_timesInParts (d : Duration) (n : Nat) : d.times n = d.timesInParts n := by
  have hparts : d.nanoseconds * n = d.seconds * n * 1000000000 + d.subsecond * n := by
    rw [← d.seconds_mul_add_subsecond, Nat.add_mul, Nat.mul_right_comm]
  have hlongest := longestNanoseconds_add_one
  ext
  rw [times, nanoseconds_ofNanoseconds, hparts]
  unfold timesInParts
  dsimp only
  split
  · next h =>
    show _ = (UInt64.ofNatLT _ h).toNat * 1000000000 + d.subsecond * n % 1000000000
    rw [UInt64.toNat_ofNatLT]
    omega
  · show _ = longestNanoseconds
    omega

end Duration

/-! ### The three bounds -/

namespace ExponentialBackoff

/-- The power of two is held at the largest number of 32 bits. -/
theorem multiplier_eq_min (n : UInt32) : multiplier n = min (2 ^ n.toNat) (UInt32.size - 1) := by
  have hsize : UInt32.size = 2 ^ 32 := rfl
  unfold multiplier
  split
  · next h =>
    have hlt : 2 ^ n.toNat < 2 ^ 32 := Nat.pow_lt_pow_right (by decide) h
    rw [Nat.one_shiftLeft, Nat.min_eq_left]
    omega
  · next h =>
    have hle : 2 ^ 32 ≤ 2 ^ n.toNat := Nat.pow_le_pow_right (by decide) (Nat.le_of_not_lt h)
    rw [Nat.min_eq_right]
    omega

/-- The power of two is never zero. -/
theorem multiplier_pos (n : UInt32) : 0 < multiplier n := by
  rw [multiplier_eq_min, Nat.lt_min]
  exact ⟨Nat.two_pow_pos _, by decide⟩

/-- The power of two does not become smaller. -/
theorem multiplier_le_multiplier {m n : UInt32} (h : m ≤ n) : multiplier m ≤ multiplier n := by
  have hpow : 2 ^ m.toNat ≤ 2 ^ n.toNat :=
    Nat.pow_le_pow_right (by decide) (UInt32.le_iff_toNat_le.mp h)
  rw [multiplier_eq_min, multiplier_eq_min]
  omega

/-- The ceiling that waits end at, in nanoseconds: it is never below the first wait. -/
def top (base ceiling : Duration) : Nat := max ceiling.nanoseconds base.nanoseconds

/-- **A wait in numbers without bound**: the product of the first wait and the power of two, within
the three bounds. -/
theorem nanoseconds_delay_make (base ceiling : Duration) (budget : Option UInt32) (n : UInt32) :
    ((make base ceiling budget).delay n).nanoseconds =
      min (min (base.nanoseconds * min (2 ^ n.toNat) (UInt32.size - 1)) longestNanoseconds)
        (top base ceiling) := by
  rw [nanoseconds_delay, multiplier_eq_min]
  unfold make top
  rw [Duration.nanoseconds_longer]

/-- A wait is the product by parts, unless the ceiling is shorter. -/
theorem delay_make_eq_timesInParts (base ceiling : Duration) (budget : Option UInt32) (n : UInt32) :
    (make base ceiling budget).delay n =
      (base.timesInParts (min (2 ^ n.toNat) (UInt32.size - 1))).shorter (ceiling.longer base) := by
  rw [← Duration.times_eq_timesInParts, ← multiplier_eq_min]
  rfl

/-- **A wait lies between the first one and the ceiling**, where the ceiling is not below the first
wait. -/
theorem delay_mem (b : ExponentialBackoff) (h : b.baseDelay ≤ b.maxDelay) (n : UInt32) :
    b.baseDelay ≤ b.delay n ∧ b.delay n ≤ b.maxDelay := by
  have hbase : b.baseDelay.nanoseconds ≤ b.baseDelay.nanoseconds * multiplier n :=
    Nat.le_mul_of_pos_right _ (multiplier_pos n)
  have hlongest := b.baseDelay.le_longest
  have hceiling : b.baseDelay.nanoseconds ≤ b.maxDelay.nanoseconds := h
  have hdelay := b.nanoseconds_delay n
  constructor
  · show b.baseDelay.nanoseconds ≤ (b.delay n).nanoseconds
    omega
  · show (b.delay n).nanoseconds ≤ b.maxDelay.nanoseconds
    omega

/-- A ceiling that is not below the first wait stays as it is. -/
theorem maxDelay_make {base ceiling : Duration} (h : base ≤ ceiling) (budget : Option UInt32) :
    (make base ceiling budget).maxDelay = ceiling := by
  ext
  rw [make, Duration.nanoseconds_longer]
  exact Nat.max_eq_left h

/-- A later wait is not shorter. -/
theorem delay_le_delay (b : ExponentialBackoff) {m n : UInt32} (h : m ≤ n) :
    b.delay m ≤ b.delay n := by
  have hproduct : b.baseDelay.nanoseconds * multiplier m ≤ b.baseDelay.nanoseconds * multiplier n :=
    Nat.mul_le_mul_left _ (multiplier_le_multiplier h)
  show (b.delay m).nanoseconds ≤ (b.delay n).nanoseconds
  rw [nanoseconds_delay, nanoseconds_delay]
  omega

/-! ### Exact and in order -/

/-- The waits double exactly from the first one to the ceiling. -/
structure DoublesExactly (base ceiling : Duration) (wait : UInt32 → Duration) : Prop where
  /-- In numbers without bound a wait is the product, within the three bounds. -/
  nanoseconds : ∀ n, (wait n).nanoseconds =
    min (min (base.nanoseconds * min (2 ^ n.toNat) (UInt32.size - 1)) longestNanoseconds)
      (top base ceiling)
  /-- It is worked out on parts, with a carry. -/
  inParts : ∀ n, wait n =
    (base.timesInParts (min (2 ^ n.toNat) (UInt32.size - 1))).shorter (ceiling.longer base)
  /-- Its seconds fit into 64 bits, and what is beyond them is less than one. -/
  parts : ∀ n, (wait n).seconds < UInt64.size ∧ (wait n).subsecond < 1000000000 ∧
    (wait n).seconds * 1000000000 + (wait n).subsecond = (wait n).nanoseconds
  first : wait 0 = base
  bounds : ∀ n, base ≤ wait n ∧ (wait n).nanoseconds ≤ top base ceiling
  ordered : ∀ m n, m ≤ n → wait m ≤ wait n
  /-- The multiplier is not held back among the first 32 waits, -/
  early : ∀ n, n.toNat ≤ 31 →
    (wait n).nanoseconds = min (base.nanoseconds * 2 ^ n.toNat) (top base ceiling)
  /-- Nor is it later, if the ceiling is no more than the multiplier can reach. -/
  always : top base ceiling ≤ base.nanoseconds * (UInt32.size - 1) →
    ∀ n, (wait n).nanoseconds = min (base.nanoseconds * 2 ^ n.toNat) (top base ceiling)
  /-- Once a wait is at the ceiling, all later ones are. -/
  stays : ∀ m n, m ≤ n → (wait m).nanoseconds = top base ceiling →
    (wait n).nanoseconds = top base ceiling

section Make

variable (base ceiling : Duration) (budget : Option UInt32)

/-- The ceiling is a duration. -/
theorem top_le_longest : top base ceiling ≤ longestNanoseconds :=
  Nat.max_le.mpr ⟨ceiling.le_longest, base.le_longest⟩

/-- The bound of durations is no bound of its own: the ceiling is within it. -/
theorem nanoseconds_delay_make_of_le {n : UInt32} {product : Nat}
    (h : min (base.nanoseconds * min (2 ^ n.toNat) (UInt32.size - 1)) (top base ceiling) =
      min product (top base ceiling)) :
    ((make base ceiling budget).delay n).nanoseconds = min product (top base ceiling) := by
  have hlongest := top_le_longest base ceiling
  rw [nanoseconds_delay_make, Nat.min_assoc, Nat.min_eq_right hlongest, h]

/-- The wait for the first attempt is the first wait. -/
theorem delay_make_zero : (make base ceiling budget).delay 0 = base := by
  have hbase := base.le_longest
  have hone : min (2 ^ (0 : UInt32).toNat) (UInt32.size - 1) = 1 := rfl
  ext
  rw [nanoseconds_delay_make, hone, Nat.mul_one, Nat.min_eq_left hbase]
  exact Nat.min_eq_left (Nat.le_max_right _ _)

/-- **Every wait lies between the first one and the ceiling.** -/
theorem delay_make_mem (n : UInt32) :
    base ≤ (make base ceiling budget).delay n ∧
      ((make base ceiling budget).delay n).nanoseconds ≤ top base ceiling := by
  have hmax : (make base ceiling budget).maxDelay.nanoseconds = top base ceiling :=
    Duration.nanoseconds_longer ceiling base
  have hle : base ≤ (make base ceiling budget).maxDelay := by
    show base.nanoseconds ≤ (make base ceiling budget).maxDelay.nanoseconds
    rw [hmax]
    exact Nat.le_max_right _ _
  obtain ⟨hbase, hceiling⟩ := delay_mem (make base ceiling budget) hle n
  refine ⟨hbase, ?_⟩
  rw [← hmax]
  exact hceiling

/-- **The waits are exact and in order**, for every first wait and every ceiling.

* In nanoseconds a wait is the product of the first wait and the power of two, held at the largest
  number of 32 bits, the largest duration and the ceiling; it is a duration like any other.
* The first wait is the one that is set; no wait is shorter than it, or longer than the ceiling, or
  shorter than an earlier one, and once they are at the ceiling they stay there.
* The first 32 waits are doubled without a bound but the ceiling; so are all of them if the ceiling
  is not beyond what the multiplier reaches. -/
theorem doublesExactly_make :
    DoublesExactly base ceiling (make base ceiling budget).policy.delay := by
  constructor
  · exact nanoseconds_delay_make base ceiling budget
  · exact delay_make_eq_timesInParts base ceiling budget
  · intro n
    exact ⟨Duration.seconds_lt _, Duration.subsecond_lt _, Duration.seconds_mul_add_subsecond _⟩
  · exact delay_make_zero base ceiling budget
  · exact delay_make_mem base ceiling budget
  · intro m n h
    exact delay_le_delay _ h
  · intro n hn
    apply nanoseconds_delay_make_of_le
    have hpow : 2 ^ n.toNat ≤ 2 ^ 31 := Nat.pow_le_pow_right (by decide) hn
    have hheld : (2 : Nat) ^ 31 ≤ UInt32.size - 1 := by decide
    rw [Nat.min_eq_left (Nat.le_trans hpow hheld)]
  · intro hreached n
    apply nanoseconds_delay_make_of_le
    by_cases hpow : 2 ^ n.toNat ≤ UInt32.size - 1
    · rw [Nat.min_eq_left hpow]
    · -- both products are beyond the ceiling
      have hheld : UInt32.size - 1 ≤ 2 ^ n.toNat := Nat.le_of_not_le hpow
      have hproduct := Nat.mul_le_mul_left base.nanoseconds hheld
      rw [Nat.min_eq_right hheld, Nat.min_eq_right hreached,
        Nat.min_eq_right (Nat.le_trans hreached hproduct)]
  · intro m n h hm
    apply Nat.le_antisymm
    · exact (delay_make_mem base ceiling budget n).2
    · have hle : ((make base ceiling budget).delay m).nanoseconds ≤
          ((make base ceiling budget).delay n).nanoseconds := delay_le_delay _ h
      exact Nat.le_trans (Nat.le_of_eq hm.symm) hle

end Make

/-- The multiplier is held: the 33rd wait is not twice the one before, but one second short of it. -/
example : ((make (.ofSeconds 1) .longest none).delay 31).seconds = 2147483648 ∧
    ((make (.ofSeconds 1) .longest none).delay 32).seconds = 4294967295 := by
  decide

end ExponentialBackoff

end LinkWarden

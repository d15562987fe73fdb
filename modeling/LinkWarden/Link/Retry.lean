import LinkWarden.Time.Duration

/-!
# Spacing attempts to reconnect

A `RetryPolicy` says how long to wait after each attempt and how many attempts there may be. The
usual one is `ExponentialBackoff`: the wait doubles with every attempt until it reaches a ceiling.
A `Backoff` counts the attempts since the last success; `advance` charges one more, or reports that
the budget is used up.
-/

namespace LinkWarden

/-! ### Policies -/

/-- How attempts are spaced and how many there may be. -/
structure RetryPolicy where
  /-- The wait after the attempt with so many attempts before it. -/
  delay : UInt32 → Duration
  /-- The budget of attempts, without bound if there is none. -/
  maxAttempts : Option UInt32

namespace RetryPolicy

/-- Whether another attempt is allowed after so many. -/
def allows (p : RetryPolicy) (attempts : UInt32) : Bool :=
  match p.maxAttempts with
  | none => true
  | some budget => decide (attempts < budget)

/-- The same wait after every attempt. -/
def fixed (delay : Duration) (maxAttempts : Option UInt32) : RetryPolicy :=
  { delay := fun _ => delay, maxAttempts }

/-- The waits of a table, the last one again and again when it ends. -/
def table (first : Duration) (others : List Duration) (maxAttempts : Option UInt32) : RetryPolicy :=
  { delay := fun n =>
      let delays := first :: others
      delays[min n.toNat (delays.length - 1)]?.getD first
    maxAttempts }

end RetryPolicy

/-- Waits that double from attempt to attempt up to a ceiling. -/
structure ExponentialBackoff where
  /-- The wait after the first attempt. -/
  baseDelay : Duration
  /-- The ceiling; it is not below the first wait. -/
  maxDelay : Duration
  maxAttempts : Option UInt32

namespace ExponentialBackoff

/-- The first wait where none is configured. -/
def defaultBaseDelay : Duration := .ofSeconds 10

/-- The ceiling where none is configured. -/
def defaultMaxDelay : Duration := .ofSeconds 300

/-- The budget of attempts before a restart. -/
def defaultMaxAttempts : UInt32 := 5

/-- Doubling waits. A ceiling below the first wait is raised to it. -/
def make (baseDelay maxDelay : Duration) (maxAttempts : Option UInt32) : ExponentialBackoff :=
  { baseDelay, maxDelay := maxDelay.longer baseDelay, maxAttempts }

/-- The usual waits with a budget. -/
def bounded : ExponentialBackoff :=
  make defaultBaseDelay defaultMaxDelay (some defaultMaxAttempts)

/-- The usual waits without a budget. -/
def unbounded : ExponentialBackoff := make defaultBaseDelay defaultMaxDelay none

/-- The waits where none are chosen. -/
def usual : ExponentialBackoff := unbounded

/-- How often the first wait fits into the wait after so many attempts, ceiling aside: a power of
two, held at the largest number of 32 bits. -/
def multiplier (attempts : UInt32) : Nat :=
  if attempts.toNat < 32 then 1 <<< attempts.toNat else UInt32.size - 1

/-- The wait after so many attempts. -/
def delay (b : ExponentialBackoff) (attempts : UInt32) : Duration :=
  (b.baseDelay.times (multiplier attempts)).shorter b.maxDelay

/-- The wait in nanoseconds: the first wait as often as the multiplier says, within the bound of
durations and the ceiling. -/
theorem nanoseconds_delay (b : ExponentialBackoff) (n : UInt32) :
    (b.delay n).nanoseconds =
      min (min (b.baseDelay.nanoseconds * multiplier n) longestNanoseconds)
        b.maxDelay.nanoseconds := by
  simp [delay, Duration.times]

/-- Doubling waits as a policy. -/
def policy (b : ExponentialBackoff) : RetryPolicy :=
  { delay := b.delay, maxAttempts := b.maxAttempts }

end ExponentialBackoff

/-! ### Progress -/

/-- The attempts since the last success. -/
structure Backoff where
  /-- How many attempts have been charged. -/
  attempt : UInt32
  /-- The wait that the last charge asked for, or the first wait before any. -/
  currentDelay : Duration
  deriving DecidableEq

/-- The answer to a charge. -/
inductive RetryStep
  | /-- Attempt again, and wait so long for the link. -/
    retry (delay : Duration)
  | /-- The budget was used up by so many attempts. -/
    exhausted (attempts : UInt32)
  deriving DecidableEq

namespace Backoff

/-- The progress of a policy before any attempt. -/
def initial (p : RetryPolicy) : Backoff := { attempt := 0, currentDelay := p.delay 0 }

/-- One more, but never beyond the largest number of 32 bits. -/
def countUp (n : UInt32) : UInt32 := if n = 4294967295 then n else n + 1

/-- Charges an attempt, if the budget has one left. -/
def advance (p : RetryPolicy) (b : Backoff) : Backoff × RetryStep :=
  if p.allows b.attempt then
    let delay := p.delay b.attempt
    ({ attempt := countUp b.attempt, currentDelay := delay }, .retry delay)
  else (b, .exhausted b.attempt)

/-- Whether the next charge would report a used-up budget. -/
def isExhausted (p : RetryPolicy) (b : Backoff) : Bool := !p.allows b.attempt

/-- While the budget lasts, an attempt is counted and its wait is that of the policy. -/
theorem advance_of_allows {p : RetryPolicy} {b : Backoff} (h : p.allows b.attempt = true) :
    b.advance p = (⟨countUp b.attempt, p.delay b.attempt⟩, .retry (p.delay b.attempt)) := by
  simp [advance, h]

/-- A budget that is used up grants nothing, and the backoff stays as it is. -/
theorem advance_of_not_allows {p : RetryPolicy} {b : Backoff} (h : p.allows b.attempt = false) :
    b.advance p = (b, .exhausted b.attempt) := by
  simp [advance, h]

/-- The count of attempts as a natural number. -/
theorem toNat_countUp (n : UInt32) : (countUp n).toNat = min (n.toNat + 1) (UInt32.size - 1) := by
  unfold countUp
  have hn := n.toNat_lt
  split
  · next h => subst h; rfl
  · next h =>
    have : n.toNat ≠ 4294967295 := fun e => h (UInt32.toNat_inj.mp (by simpa using e))
    rw [UInt32.toNat_add]
    simp
    omega

end Backoff

/-! ### Health checks -/

/-- How often a link is probed and how many silent probes in a row are tolerated. -/
structure HealthPolicy where
  /-- The time between probes; without one the link is never probed. -/
  interval : Option Duration
  /-- So many unreachable probes in a row end the session. -/
  threshold : UInt32
  deriving DecidableEq

namespace HealthPolicy

/-- Probes at an interval. At least one probe has to fail before a session is ended. -/
def every (interval : Duration) (threshold : UInt32) : HealthPolicy :=
  { interval := some interval, threshold := if threshold = 0 then 1 else threshold }

/-- No probes. -/
def disabled : HealthPolicy := { interval := none, threshold := 0 }

/-- The usual probes. -/
def usual : HealthPolicy := every (.ofSeconds 5) 3

def isEnabled (h : HealthPolicy) : Bool := h.interval.isSome

end HealthPolicy

end LinkWarden

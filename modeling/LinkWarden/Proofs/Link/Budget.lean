import LinkWarden.Link.Retry
import Mathlib.Data.List.DropRight
import Mathlib.Data.List.Induction

/-!
# A budget cuts the waits of a policy

Whoever holds a backoff charges attempts to it and resets it, in any order and any number. What
comes of a charge depends on the policy and on one number only: how many charges there have been
since the last reset.

* `RetryPolicy.answer` is what a policy has to say after so many charges, and `Backoff.reached` the
  progress then. `advance_reached` is the step: one more charge gives that answer and leads to the
  progress after one more.
* `after_eq_reached` is the run: the progress after any calls is the one that their charges since
  the last reset lead to.
* `CutAtBudget` lists what a caller can rely on, and `cutAtBudget` is the main statement.
-/

namespace LinkWarden

/-! ### What a policy has to say -/

/-- A number of attempts as it is counted: it is held at the largest number of 32 bits. -/
def Backoff.held (n : Nat) : UInt32 := .ofNat (min n (UInt32.size - 1))

namespace RetryPolicy

open Backoff (held)

/-- The budget has room for an attempt after so many. -/
def Grants (p : RetryPolicy) (n : Nat) : Prop :=
  ∀ budget, p.maxAttempts = some budget → n < budget.toNat

/-- The answer to a charge after so many: the wait that the policy has for it, or that the budget is
used up. -/
def answer (p : RetryPolicy) (n : Nat) : RetryStep :=
  match p.maxAttempts with
  | none => .retry (p.delay (held n))
  | some budget => if n < budget.toNat then .retry (p.delay (held n)) else .exhausted budget

/-- Of so many charges, how many are granted. -/
def granted (p : RetryPolicy) (n : Nat) : Nat :=
  match p.maxAttempts with
  | none => n
  | some budget => min n budget.toNat

section Answers

variable {p : RetryPolicy} {n : Nat}

/-- Where there is room, the answer is the wait that the policy has for this attempt. -/
theorem answer_of_grants (h : p.Grants n) : p.answer n = .retry (p.delay (held n)) := by
  unfold answer
  split
  · rfl
  · next budget hb => rw [if_pos (h budget hb)]

/-- Where there is room, all charges so far have been granted. -/
theorem granted_of_grants (h : p.Grants n) : p.granted n = n := by
  unfold granted
  split
  · rfl
  · next budget hb => exact Nat.min_eq_left (Nat.le_of_lt (h budget hb))

/-- If one more is granted, so is the number with it. -/
theorem granted_succ_of_grants (h : p.Grants n) : p.granted (n + 1) = n + 1 := by
  unfold granted
  split
  · rfl
  · next budget hb => exact Nat.min_eq_left (h budget hb)

/-- Where there is no room there is a budget, and all of it has been granted. -/
theorem exists_budget_of_not_grants (h : ¬ p.Grants n) :
    ∃ budget, p.maxAttempts = some budget ∧ budget.toNat ≤ n := by
  unfold Grants at h
  push Not at h
  exact h

/-- Where there is no room, the answer is that the whole budget is used up. -/
theorem answer_of_not_grants {budget : UInt32} (hb : p.maxAttempts = some budget)
    (hn : budget.toNat ≤ n) : p.answer n = .exhausted budget := by
  unfold answer
  rw [hb]
  exact if_neg (Nat.not_lt.mpr hn)

/-- Where there is no room, as many charges as the budget has have been granted. -/
theorem granted_of_not_grants {budget : UInt32} (hb : p.maxAttempts = some budget)
    (hn : budget.toNat ≤ n) : p.granted n = budget.toNat := by
  unfold granted
  rw [hb]
  exact Nat.min_eq_right hn

end Answers

end RetryPolicy

namespace Backoff

variable (p : RetryPolicy)

/-- A number of attempts is exact up to the largest number of 32 bits. -/
@[simp] theorem toNat_held (n : Nat) : (held n).toNat = min n (UInt32.size - 1) := by
  rw [held, UInt32.toNat_ofNat']
  apply Nat.mod_eq_of_lt
  exact Nat.lt_of_le_of_lt (Nat.min_le_right _ _) (by decide)

/-- A number of 32 bits is held as it is. -/
theorem held_toNat (n : UInt32) : held n.toNat = n := by
  have hn := n.toNat_lt_size
  apply UInt32.toNat_inj.mp
  rw [toNat_held]
  omega

/-- To count one more is to hold the next number. -/
theorem countUp_held (n : Nat) : countUp (held n) = held (n + 1) := by
  apply UInt32.toNat_inj.mp
  rw [toNat_countUp, toNat_held, toNat_held]
  omega

/-! ### One charge -/

/-- The progress after so many charges: those that are granted are counted, and the wait is that of
the last one. -/
def reached (n : Nat) : Backoff :=
  { attempt := held (p.granted n), currentDelay := p.delay (held (p.granted n - 1)) }

/-- Without a charge there is no progress. -/
theorem reached_zero : reached p 0 = initial p := by
  have hzero : p.granted 0 = 0 := by
    unfold RetryPolicy.granted
    split
    · rfl
    · exact Nat.zero_min _
  unfold reached initial
  rw [hzero]
  rfl

/-- The count tells whether the budget has room, although it is held. -/
theorem allows_reached (n : Nat) : p.allows (reached p n).attempt = true ↔ p.Grants n := by
  unfold reached RetryPolicy.allows RetryPolicy.granted RetryPolicy.Grants
  cases hb : p.maxAttempts with
  | none => simp
  | some budget =>
    have hbudget := budget.toNat_lt_size
    simp only [decide_eq_true_eq, UInt32.lt_iff_toNat_lt, toNat_held, Option.some.injEq,
      forall_eq']
    omega

/-- **One more charge.** -/
theorem advance_reached (n : Nat) :
    (reached p n).advance p = (reached p (n + 1), p.answer n) := by
  by_cases h : p.Grants n
  · rw [advance_of_allows ((allows_reached p n).mpr h), RetryPolicy.answer_of_grants h]
    unfold reached
    rw [RetryPolicy.granted_of_grants h, RetryPolicy.granted_succ_of_grants h, countUp_held]
    rfl
  · obtain ⟨budget, hb, hn⟩ := RetryPolicy.exists_budget_of_not_grants h
    have hno : p.allows (reached p n).attempt = false :=
      Bool.eq_false_iff.mpr (mt (allows_reached p n).mp h)
    rw [advance_of_not_allows hno, RetryPolicy.answer_of_not_grants hb hn]
    unfold reached
    rw [RetryPolicy.granted_of_not_grants hb hn,
      RetryPolicy.granted_of_not_grants hb (Nat.le_succ_of_le hn), held_toNat]

/-- When the budget is used up, charges change nothing any more. -/
theorem reached_of_not_grants {n m : Nat} (h : ¬ p.Grants n) (hm : n ≤ m) :
    reached p m = reached p n := by
  obtain ⟨budget, hb, hn⟩ := RetryPolicy.exists_budget_of_not_grants h
  unfold reached
  rw [RetryPolicy.granted_of_not_grants hb hn,
    RetryPolicy.granted_of_not_grants hb (Nat.le_trans hn hm)]

/-! ### Any calls -/

/-- What is asked of a backoff. -/
inductive Call
  | charge
  | reset
  deriving DecidableEq, Repr

/-- The progress after one more call. -/
def call (b : Backoff) : Call → Backoff
  | .charge => (b.advance p).1
  | .reset => initial p

/-- The progress of a new backoff after calls. -/
def after (cs : List Call) : Backoff := cs.foldl (call p) (initial p)

/-- The charges since the last reset, or since the backoff was made. -/
def sinceReset (cs : List Call) : Nat := (cs.rtakeWhile (· == .charge)).length

/-- A charge is one more since the last reset. -/
theorem sinceReset_charge (cs : List Call) :
    sinceReset (cs ++ [.charge]) = sinceReset cs + 1 := by
  simp [sinceReset]

/-- After a reset there have been none. -/
theorem sinceReset_reset (cs : List Call) : sinceReset (cs ++ [.reset]) = 0 := by
  simp [sinceReset]

/-- So many charges in a row are so many more. -/
theorem sinceReset_charges (cs : List Call) (k : Nat) :
    sinceReset (cs ++ List.replicate k .charge) = sinceReset cs + k := by
  induction k with
  | zero => simp
  | succ k ih =>
    rw [List.replicate_succ', ← List.append_assoc, sinceReset_charge, ih, Nat.add_assoc]

/-- The progress is made one call after another. -/
theorem after_concat (cs : List Call) (c : Call) : after p (cs ++ [c]) = call p (after p cs) c := by
  simp [after]

/-- **The progress after any calls** is the one that the charges since the last reset lead to. -/
theorem after_eq_reached (cs : List Call) : after p cs = reached p (sinceReset cs) := by
  induction cs using List.reverseRecOn with
  | nil => exact (reached_zero p).symm
  | append_singleton cs c ih =>
    rw [after_concat, ih]
    cases c with
    | charge =>
      rw [sinceReset_charge, call, advance_reached]
    | reset =>
      rw [sinceReset_reset, reached_zero]
      rfl

/-! ### Cut at the budget -/

/-- What comes of calls on a backoff is the sequence of the waits of its policy, cut at the
budget. -/
structure CutAtBudget (cs : List Call) : Prop where
  /-- The next charge is answered by the policy, as the number of charges since the last reset
  says. -/
  next : ((after p cs).advance p).2 = p.answer (sinceReset cs)
  /-- A backoff is exhausted just if the next charge says so, -/
  exhausted : isExhausted p (after p cs) = true ↔
    ∃ attempts, ((after p cs).advance p).2 = .exhausted attempts
  /-- And then no number of charges changes anything. -/
  stays : isExhausted p (after p cs) = true →
    ∀ k, after p (cs ++ List.replicate k .charge) = after p cs
  /-- The count is that of the charges, within the budget and 32 bits. -/
  attempt : (after p cs).attempt.toNat = min (p.granted (sinceReset cs)) (UInt32.size - 1)
  /-- After a reset the backoff is a new one. -/
  reset : after p (cs ++ [.reset]) = initial p
  /-- Of waits that double, none is longer than the ceiling. -/
  ceiling : ∀ b : ExponentialBackoff, p = b.policy → (after p cs).currentDelay ≤ b.maxDelay

/-- **A backoff is exhausted just if the charges since the last reset have used up the budget.** -/
theorem isExhausted_after (cs : List Call) :
    isExhausted p (after p cs) = true ↔ ¬ p.Grants (sinceReset cs) := by
  rw [after_eq_reached, ← allows_reached]
  unfold isExhausted
  simp

/-- **Whatever the calls are, a backoff goes through the waits of its policy until the budget is
used up, and begins anew after a reset.** -/
theorem cutAtBudget (cs : List Call) : CutAtBudget p cs := by
  constructor
  · rw [after_eq_reached, advance_reached]
  · rw [isExhausted_after, after_eq_reached, advance_reached]
    constructor
    · intro h
      obtain ⟨budget, hb, hn⟩ := RetryPolicy.exists_budget_of_not_grants h
      exact ⟨budget, RetryPolicy.answer_of_not_grants hb hn⟩
    · rintro ⟨attempts, ha⟩ h
      rw [RetryPolicy.answer_of_grants h] at ha
      cases ha
  · intro h k
    rw [isExhausted_after] at h
    rw [after_eq_reached, after_eq_reached, sinceReset_charges]
    exact reached_of_not_grants p h (Nat.le_add_right _ _)
  · rw [after_eq_reached]
    exact toNat_held _
  · rw [after_concat]
    rfl
  · rintro b rfl
    rw [after_eq_reached]
    have hdelay : ∀ n, (b.delay n).nanoseconds ≤ b.maxDelay.nanoseconds := by
      intro n
      rw [b.nanoseconds_delay]
      exact Nat.min_le_right _ _
    exact hdelay _

end Backoff

end LinkWarden

import LinkWarden.Text.Quoted

/-!
# Watched values

A `Cell` holds the present value of one component and the registrations of those who want to know
when it changes. A proposed value is accepted only if it differs from the present one.

A registration does not keep its listener alive. Those whose listener is gone stay in the cell until
the next accepted change, which prunes them.
-/

namespace LinkWarden

/-- The registration of a listener, by the listener's number. -/
structure Registration where
  /-- The number that the registration was given; no two have the same. -/
  token : Nat
  listener : Nat
  deriving DecidableEq, Repr

/-- What a function makes of the present value. -/
inductive Proposal (α : Type)
  | /-- The value stays. -/
    keep
  | becomes (value : α)
  | /-- The function fails. -/
    fails

/-- A value that can be watched. -/
structure Cell (α : Type) where
  id : String
  /-- The text of a value. -/
  describe : α → String
  value : α
  /-- Whether accepted changes are recorded. -/
  recorded : Bool := true
  /-- The registrations, oldest first. -/
  registrations : List Registration := []

namespace Cell

variable {α : Type}

/-! ### Values -/

/-- The new value, if a proposal is one that differs from the present value. -/
def accepted? [BEq α] (c : Cell α) : Proposal α → Option α
  | .becomes new => if new == c.value then none else some new
  | _ => none

/-- Just the proposals of a value that differs from the present one are accepted. -/
theorem accepted?_eq_some_iff [BEq α] {c : Cell α} {p : Proposal α} {new : α} :
    c.accepted? p = some new ↔ p = .becomes new ∧ (new == c.value) = false := by
  cases p with
  | becomes v =>
    simp only [accepted?, Proposal.becomes.injEq]
    constructor
    · intro h
      split at h
      · simp at h
      · next hne => cases h; exact ⟨rfl, by simpa using hne⟩
    · rintro ⟨rfl, h⟩
      simp [h]
  | _ => simp [accepted?]

/-- The cell with a new value. Registrations whose listener is gone are pruned. -/
def change (c : Cell α) (isAlive : Nat → Bool) (new : α) : Cell α :=
  { c with
    value := new
    registrations := c.registrations.filter fun r => isAlive r.listener }

/-- The cell in diagnostics. -/
def debugText (c : Cell α) : String :=
  "ObservableCell \x7b id: " ++ Text.quote c.id ++ ", state: " ++ Text.quote (c.describe c.value) ++
    " \x7d"

/-! ### Registrations -/

/-- Adds a registration. -/
def register (c : Cell α) (r : Registration) : Cell α :=
  { c with registrations := c.registrations ++ [r] }

/-- Removes the registration with a token. -/
def unregister (c : Cell α) (token : Nat) : Cell α :=
  { c with registrations := c.registrations.filter fun r => r.token != token }

/-- Whether there is a registration with a token. -/
def isRegistered (c : Cell α) (token : Nat) : Bool := c.registrations.any fun r => r.token == token

/-- How many registrations have a listener that is alive. -/
def listenerCount (c : Cell α) (isAlive : Nat → Bool) : Nat :=
  c.registrations.countP fun r => isAlive r.listener

end Cell

end LinkWarden

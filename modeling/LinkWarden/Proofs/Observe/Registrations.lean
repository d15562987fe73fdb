import LinkWarden.Observe.Dispatch

/-!
# What becomes of registrations

A cell forgets its registrations in two ways. One that is taken back is removed at once. One whose
listener is gone stays until the cell accepts a change; a change that it rejects removes nothing. So
what a cell holds depends on everything that has happened to it, in this order.

* A story is a list of `Happening`s, the latest one first. `roll` lists all registrations in it,
  `kept` those that the cell still holds and `live` those that a change is told to.
* Each of the two lists has an equation for every happening. `live_eq_filter_kept` says what they
  have to do with each other.
* `Board.story` is the story of one cell of a board on which commands are carried out.
-/

namespace LinkWarden

/-- What can happen to the registrations of a cell. -/
inductive Happening
  | registered (r : Registration)
  | unregistered (token : Nat)
  | /-- The listener with this number has lost its owner. -/
    dropped (listener : Nat)
  | /-- The cell has accepted a change. -/
    changed
  deriving DecidableEq, Repr

namespace Happening

/-- All registrations there have been, oldest first. -/
def roll : List Happening → List Registration
  | [] => []
  | .registered r :: h => roll h ++ [r]
  | _ :: h => roll h

/-- Whether a registration has been taken back. -/
def isRevoked (h : List Happening) (r : Registration) : Bool := .unregistered r.token ∈ h

/-- Whether the listener of a registration is gone. -/
def isDead (h : List Happening) (r : Registration) : Bool := .dropped r.listener ∈ h

/-- Whether the listener of a registration was gone when the cell accepted a change. -/
def isPruned : List Happening → Registration → Bool
  | [], _ => false
  | .changed :: h, r => (r ∈ roll h && isDead h r) || isPruned h r
  | _ :: h, r => isPruned h r

/-- The registrations that a cell holds. -/
def kept (h : List Happening) : List Registration :=
  (roll h).filter fun r => !isRevoked h r && !isPruned h r

/-- The registrations that a change is told to. -/
def live (h : List Happening) : List Registration :=
  (roll h).filter fun r => !isRevoked h r && !isDead h r

variable {h : List Happening} {r : Registration}

/-! ### What each happening does -/

/-- A registration takes no other one back. -/
@[simp] theorem isRevoked_registered (s : Registration) :
    isRevoked (.registered s :: h) r = isRevoked h r := by
  simp [isRevoked]

/-- A registration is taken back by naming its token. -/
@[simp] theorem isRevoked_unregistered (t : Nat) :
    isRevoked (.unregistered t :: h) r = (r.token == t || isRevoked h r) := by
  simp [isRevoked]
  rfl

/-- A listener that is dropped takes no registration back. -/
@[simp] theorem isRevoked_dropped (n : Nat) : isRevoked (.dropped n :: h) r = isRevoked h r := by
  simp [isRevoked]

/-- A change takes no registration back. -/
@[simp] theorem isRevoked_changed : isRevoked (.changed :: h) r = isRevoked h r := by
  simp [isRevoked]

/-- No listener is gone because of a new registration. -/
@[simp] theorem isDead_registered (s : Registration) :
    isDead (.registered s :: h) r = isDead h r := by
  simp [isDead]

/-- No listener is gone because a registration is taken back. -/
@[simp] theorem isDead_unregistered (t : Nat) : isDead (.unregistered t :: h) r = isDead h r := by
  simp [isDead]

/-- The listener that is dropped is gone. -/
@[simp] theorem isDead_dropped (n : Nat) :
    isDead (.dropped n :: h) r = (r.listener == n || isDead h r) := by
  simp [isDead]
  rfl

/-- No listener is gone because of a change. -/
@[simp] theorem isDead_changed : isDead (.changed :: h) r = isDead h r := by
  simp [isDead]

/-- Only what has been registered and is dead is pruned. -/
theorem mem_roll_and_isDead_of_isPruned (hr : isPruned h r = true) :
    r ∈ roll h ∧ isDead h r = true := by
  induction h with
  | nil => cases hr
  | cons x h ih =>
    cases x with
    | registered s =>
      obtain ⟨hroll, hdead⟩ := ih hr
      exact ⟨List.mem_append_left _ hroll, by simpa using hdead⟩
    | unregistered t => simpa [roll] using ih hr
    | dropped n =>
      obtain ⟨hroll, hdead⟩ := ih hr
      exact ⟨hroll, by simp [hdead]⟩
    | changed =>
      simp only [isPruned, Bool.or_eq_true, Bool.and_eq_true, decide_eq_true_eq] at hr
      rw [isDead_changed]
      exact hr.elim id ih

/-- **A change is told to the registrations that the cell holds and whose listener is there.** -/
theorem live_eq_filter_kept (h : List Happening) :
    live h = (kept h).filter fun r => !isDead h r := by
  unfold live kept
  rw [List.filter_filter]
  refine List.filter_congr fun r _ => ?_
  cases hpruned : isPruned h r with
  | false => simp [Bool.and_comm]
  | true => simp [(mem_roll_and_isDead_of_isPruned hpruned).2]

/-! ### What a cell holds -/

/-- A new registration is the last one that the cell holds. -/
theorem kept_registered (hroll : r ∉ roll h) (hrevoked : isRevoked h r = false) :
    kept (.registered r :: h) = kept h ++ [r] := by
  have hpruned : isPruned h r = false :=
    Bool.eq_false_iff.mpr fun hr => hroll (mem_roll_and_isDead_of_isPruned hr).1
  simp [kept, roll, isPruned, hrevoked, hpruned]

/-- A registration that is taken back is removed at once. -/
theorem kept_unregistered (t : Nat) (h : List Happening) :
    kept (.unregistered t :: h) = (kept h).filter fun r => r.token != t := by
  unfold kept
  rw [List.filter_filter]
  refine List.filter_congr fun r _ => ?_
  simp [isPruned, bne, Bool.and_assoc]

/-- The registrations of a listener that is dropped stay for now. -/
theorem kept_dropped (n : Nat) (h : List Happening) : kept (.dropped n :: h) = kept h := by
  simp [kept, roll, isPruned]

/-- A change removes the registrations whose listener is gone. -/
theorem kept_changed (h : List Happening) :
    kept (.changed :: h) = (kept h).filter fun r => !isDead h r := by
  unfold kept
  rw [List.filter_filter]
  refine List.filter_congr fun r hr => ?_
  have hroll : r ∈ roll h := hr
  simp only [isRevoked_changed, isPruned, hroll, decide_true, Bool.true_and]
  cases isRevoked h r <;> cases isDead h r <;> rfl

/-! ### What a change is told to -/

/-- A new registration is the last one to be told. -/
theorem live_registered (hrevoked : isRevoked h r = false) (hdead : isDead h r = false) :
    live (.registered r :: h) = live h ++ [r] := by
  simp [live, roll, hrevoked, hdead]

/-- **Taking a registration back removes this one only.** -/
theorem live_unregistered (t : Nat) (h : List Happening) :
    live (.unregistered t :: h) = (live h).filter fun r => r.token != t := by
  unfold live
  rw [List.filter_filter]
  refine List.filter_congr fun r _ => ?_
  simp [bne, Bool.and_assoc]

/-- Those of a dropped listener are told nothing from then on. -/
theorem live_dropped (n : Nat) (h : List Happening) :
    live (.dropped n :: h) = (live h).filter fun r => r.listener != n := by
  unfold live
  rw [List.filter_filter]
  refine List.filter_congr fun r _ => ?_
  simp only [isRevoked_dropped, isDead_dropped, bne]
  cases isRevoked h r <;> cases isDead h r <;> cases r.listener == n <;> rfl

/-- A change leaves all that are live. -/
theorem live_changed (h : List Happening) : live (.changed :: h) = live h := by
  simp [live, roll]

end Happening

/-! ### The story of a cell -/

variable {α : Type}

/-- What a call of the cell at a place makes of its value, if the command is one. -/
def Command.next? (i : Nat) : Command α → Option (α → Proposal α)
  | .set j new => if j = i then some fun _ => .becomes new else none
  | .update j next => if j = i then some next else none
  | _ => none

namespace Board

variable [BEq α]

/-- The value that a command gives to the cell at a place, if it changes it. -/
def newValue? (b : Board α) (i : Nat) (command : Command α) : Option α :=
  b.cells[i]?.bind fun c => (command.next? i).bind fun next => c.accepted? (next c.value)

/-- What a command does to the registrations of the cell at a place. -/
def happening? (b : Board α) (i : Nat) : Command α → Option Happening
  | .listen j name act =>
    if j = i ∧ i < b.cells.length then
      some (.registered { token := b.nextToken, listener := (b.own name act).1 })
    else none
  | .unlisten j token =>
    if j = i ∧ i < b.cells.length ∧ token < b.nextToken then some (.unregistered token) else none
  | .drop name => (b.owned? name).map .dropped
  | command => (b.newValue? i command).map fun _ => .changed

/-- To drop a name happens to the listener that has it and is still owned. -/
theorem happening?_drop (b : Board α) (i : Nat) (name : String) :
    b.happening? i (.drop name) = (b.owned? name).map .dropped := rfl

/-- What has happened to the registrations of the cell at a place when commands have been carried
out, each at its time. -/
def story (i : Nat) : List (Timestamp × Command α) → Board α → List Happening
  | [], _ => []
  | (time, command) :: rest, b =>
    let b := { b with clock := time }
    story i rest (b.execute command).board ++ (b.happening? i command).toList

end Board

end LinkWarden

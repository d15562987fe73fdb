/-!
# A bounded log that overwrites its oldest item

A `Ring` holds at most `capacity` items in a fixed array of slots. The oldest item lies in the
slot `head`, the later ones in the slots after it, wrapping round at the end of the array; `count`
says how many there are. Pushing into a full ring hands the oldest item back and writes over it.

The view of a ring is `toList`, oldest item first.
-/

namespace LinkWarden

/-- A bounded first-in first-out log in a fixed array of slots. -/
structure Ring (α : Type) where
  /-- The slots; their number never changes. -/
  slots : Array (Option α)
  /-- The slot of the oldest item. -/
  head : Nat
  /-- How many items are held. -/
  count : Nat
  deriving Repr

namespace Ring

variable {α : Type}

/-- The number of items kept when nobody asks for another number. -/
def defaultCapacity : Nat := 30

/-- A ring without items. It has room for one item at least. -/
def empty (requested : Nat) : Ring α :=
  { slots := Array.replicate (max requested 1) none, head := 0, count := 0 }

/-! ### Queries -/

/-- How many items fit. -/
def capacity (r : Ring α) : Nat := r.slots.size

/-- How many items are held. -/
def size (r : Ring α) : Nat := r.count

def isEmpty (r : Ring α) : Bool := r.count == 0

def isFull (r : Ring α) : Bool := r.count == r.capacity

/-- The slot of the item with `index` items before it. -/
def slotOf (r : Ring α) (index : Nat) : Nat := (r.head + index) % r.capacity

/-- What lies in a slot. -/
def inSlot (r : Ring α) (slot : Nat) : Option α := r.slots[slot]?.join

/-- The item with `index` items before it. -/
def get? (r : Ring α) (index : Nat) : Option α :=
  if index < r.count then r.inSlot (r.slotOf index) else none

/-- The items, oldest first. -/
def toList (r : Ring α) : List α :=
  (List.range r.count).filterMap fun i => r.inSlot (r.slotOf i)

/-! ### Changes -/

/-- Appends an item. A full ring gives up its oldest item, which is returned. -/
def push (r : Ring α) (x : α) : Ring α × Option α :=
  if r.count = r.capacity then
    ({ r with
        slots := r.slots.setIfInBounds r.head (some x)
        head := (r.head + 1) % r.capacity },
      r.inSlot r.head)
  else
    ({ r with
        slots := r.slots.setIfInBounds (r.slotOf r.count) (some x)
        count := r.count + 1 },
      none)

/-- Takes the oldest item out. -/
def pop (r : Ring α) : Ring α × Option α :=
  if r.count = 0 then (r, none)
  else
    ({ slots := r.slots.setIfInBounds r.head none
       head := (r.head + 1) % r.capacity
       count := r.count - 1 },
      r.inSlot r.head)

/-- Drops every item and keeps the slots. -/
def clear (r : Ring α) : Ring α :=
  { slots := Array.replicate r.capacity none, head := 0, count := 0 }

/-! ### No operation changes the number of slots -/

/-- A ring has the capacity that was asked for, and at least one slot. -/
@[simp] theorem capacity_empty (requested : Nat) :
    (empty requested : Ring α).capacity = max requested 1 := by
  simp [empty, capacity]

/-- A push keeps the capacity. -/
@[simp] theorem capacity_push (r : Ring α) (x : α) : (r.push x).1.capacity = r.capacity := by
  unfold push; split <;> simp [capacity]

/-- A pop keeps the capacity. -/
@[simp] theorem capacity_pop (r : Ring α) : r.pop.1.capacity = r.capacity := by
  unfold pop; split <;> simp [capacity]

/-- A ring that is cleared keeps its capacity. -/
@[simp] theorem capacity_clear (r : Ring α) : r.clear.capacity = r.capacity := by
  simp [clear, capacity]

end Ring

end LinkWarden

import LinkWarden.Proofs.Ring.View

/-!
# A ring is a bounded queue

A `BoundedQueue` is a list with room for so many items. What can be asked of a queue can be asked of
a ring (`Request`), and the two answer alike: if a ring holds the items of a queue, then one request
is answered in the same way by both, and the ring holds the items of the queue afterwards
(`Holds.execute`). So whatever is asked of a new ring, it answers as an empty queue does
(`run_empty`).
-/

namespace LinkWarden

/-- What can be asked of a queue. -/
inductive Request (α : Type)
  | push (x : α)
  | pop
  | /-- Asks for the item with `index` items before it. -/
    item (index : Nat)
  | size
  | isEmpty
  | isFull
  | capacity
  | /-- Asks for all items, oldest first. -/
    snapshot
  | clear

/-- What a queue answers. -/
inductive Response (α : Type)
  | item (x : Option α)
  | number (n : Nat)
  | yes (b : Bool)
  | items (l : List α)
  | nothing
  deriving DecidableEq

/-- A list of items, oldest first, with room for so many. -/
structure BoundedQueue (α : Type) where
  room : Nat
  items : List α := []

namespace BoundedQueue

variable {α : Type}

/-- Carries out a request. A push needs room: where there is none left, the oldest item goes first
and is the answer. -/
def execute (q : BoundedQueue α) : Request α → BoundedQueue α × Response α
  | .push x =>
    if q.items.length = q.room then
      ({ q with items := q.items.tail ++ [x] }, .item q.items.head?)
    else ({ q with items := q.items ++ [x] }, .item none)
  | .pop => ({ q with items := q.items.tail }, .item q.items.head?)
  | .item index => (q, .item q.items[index]?)
  | .size => (q, .number q.items.length)
  | .isEmpty => (q, .yes q.items.isEmpty)
  | .isFull => (q, .yes (q.items.length == q.room))
  | .capacity => (q, .number q.room)
  | .snapshot => (q, .items q.items)
  | .clear => ({ q with items := [] }, .nothing)

/-- Carries out requests one after another. -/
def run : List (Request α) → BoundedQueue α → BoundedQueue α × List (Response α)
  | [], q => (q, [])
  | x :: xs, q => ((run xs (q.execute x).1).1, (q.execute x).2 :: (run xs (q.execute x).1).2)

/-- A queue keeps its room. -/
@[simp] theorem room_execute (q : BoundedQueue α) (x : Request α) :
    (q.execute x).1.room = q.room := by
  cases x with
  | push x =>
    unfold execute
    dsimp only
    split <;> rfl
  | _ => rfl

end BoundedQueue

namespace Ring

variable {α : Type}

/-- Carries out a request. -/
def execute (r : Ring α) : Request α → Ring α × Response α
  | .push x => ((r.push x).1, .item (r.push x).2)
  | .pop => (r.pop.1, .item r.pop.2)
  | .item index => (r, .item (r.get? index))
  | .size => (r, .number r.size)
  | .isEmpty => (r, .yes r.isEmpty)
  | .isFull => (r, .yes r.isFull)
  | .capacity => (r, .number r.capacity)
  | .snapshot => (r, .items r.toList)
  | .clear => (r.clear, .nothing)

/-- Carries out requests one after another. -/
def run : List (Request α) → Ring α → Ring α × List (Response α)
  | [], r => (r, [])
  | x :: xs, r => ((run xs (r.execute x).1).1, (r.execute x).2 :: (run xs (r.execute x).1).2)

/-- A request keeps the capacity of a ring. -/
@[simp] theorem capacity_execute (r : Ring α) (x : Request α) :
    (r.execute x).1.capacity = r.capacity := by
  cases x with
  | push x => exact capacity_push r x
  | pop => exact capacity_pop r
  | clear => exact capacity_clear r
  | _ => rfl

/-! ### Ring and queue answer alike -/

/-- **One request is answered alike** by a ring and by the queue whose items it holds, and the ring
holds the items of the queue afterwards. -/
theorem Holds.execute {r : Ring α} {q : BoundedQueue α} (h : r.Holds q.items)
    (hr : r.capacity = q.room) (x : Request α) :
    (r.execute x).2 = (q.execute x).2 ∧ (r.execute x).1.Holds (q.execute x).1.items := by
  cases x with
  | push x =>
    have hle := h.length_le
    unfold Ring.execute BoundedQueue.execute
    dsimp only
    split
    · next hf =>
      obtain ⟨hitems, hgone⟩ := h.push_of_full (hf.trans hr.symm) x
      exact ⟨congrArg Response.item hgone, hitems⟩
    · next hf =>
      obtain ⟨hitems, hgone⟩ := h.push_of_lt (by omega) x
      exact ⟨congrArg Response.item hgone, hitems⟩
  | pop =>
    obtain ⟨hitems, hgone⟩ := h.pop
    exact ⟨congrArg Response.item hgone, hitems⟩
  | item index => exact ⟨congrArg Response.item (h.get?_eq index), h⟩
  | size => exact ⟨congrArg Response.number h.size_eq, h⟩
  | isEmpty => exact ⟨congrArg Response.yes h.isEmpty_eq, h⟩
  | isFull =>
    refine ⟨congrArg Response.yes ?_, h⟩
    rw [h.isFull_eq, hr]
  | capacity => exact ⟨congrArg Response.number hr, h⟩
  | snapshot => exact ⟨congrArg Response.items h.toList_eq, h⟩
  | clear => exact ⟨rfl, h.clear⟩

/-- The same for requests one after another. -/
theorem Holds.run {r : Ring α} {q : BoundedQueue α} (h : r.Holds q.items)
    (hr : r.capacity = q.room) (xs : List (Request α)) :
    (Ring.run xs r).2 = (q.run xs).2 ∧ (Ring.run xs r).1.Holds (q.run xs).1.items := by
  induction xs generalizing r q with
  | nil => exact ⟨rfl, h⟩
  | cons x xs ih =>
    obtain ⟨hanswer, hitems⟩ := h.execute hr x
    have hr' : (r.execute x).1.capacity = (q.execute x).1.room := by
      rw [capacity_execute, BoundedQueue.room_execute, hr]
    obtain ⟨hanswers, hlast⟩ := ih hitems hr'
    refine ⟨?_, hlast⟩
    show (r.execute x).2 :: _ = (q.execute x).2 :: _
    rw [hanswer, hanswers]

/-- So do requests one after another. -/
@[simp] theorem capacity_run (xs : List (Request α)) (r : Ring α) :
    (Ring.run xs r).1.capacity = r.capacity := by
  induction xs generalizing r with
  | nil => rfl
  | cons x xs ih => exact (ih _).trans (capacity_execute r x)

/-- **Whatever is asked of a new ring, it answers as an empty queue does** that has room for as many
items as were asked for, for one at least. In the end its items are those of the queue, and they
are no more than there is room for. -/
theorem run_empty (requested : Nat) (xs : List (Request α)) :
    ((empty requested).run xs).2 = (BoundedQueue.run xs { room := max requested 1 }).2 ∧
      ((empty requested).run xs).1.toList =
        (BoundedQueue.run xs { room := max requested 1 }).1.items ∧
      ((empty requested).run xs).1.toList.length ≤ max requested 1 := by
  have hempty : Holds (empty requested : Ring α) [] := holds_empty requested
  obtain ⟨hanswers, hitems⟩ :=
    hempty.run (q := { room := max requested 1 }) (capacity_empty requested) xs
  refine ⟨hanswers, hitems.toList_eq, ?_⟩
  have hle := hitems.length_le
  rw [capacity_run, capacity_empty] at hle
  rw [hitems.toList_eq]
  exact hle

/-- A push into a full ring after a pop and a wrap: the oldest item goes, the order stays. -/
example :
    ((empty 2).run [.push 'a', .push 'b', .pop, .push 'c', .push 'd', .snapshot, .item 2]).2 =
      [.item none, .item none, .item (some 'a'), .item none, .item (some 'b'),
        .items ['c', 'd'], .item none] := by decide

end Ring

end LinkWarden

import LinkWarden.Proofs.Ring.Queue

/-!
# What goes through a ring

An item goes into a ring by a push, and comes out again when a later push displaces it or a pop
takes it. What comes out is the answer to the request, so a run can be balanced without a look
inside: what went in is what came out, in this order, and then what is held.

* `BoundedQueue.balanced_execute` balances one request, and `BoundedQueue.balanced_run` a run.
* Without pops a queue is as full as its room allows (`BoundedQueue.length_run`).
* **Main statement** (`keeps_all_in_order`): both for a new ring, which answers as a queue does.

Only clearing drops items without an answer, so it is left out of the runs.
-/

namespace LinkWarden

variable {α : Type}

/-- What goes in by a request. -/
def Request.input : Request α → List α
  | .push x => [x]
  | _ => []

/-- What comes out by the answer to a request. A look at an item is no way out. -/
def Request.output : Request α → Response α → List α
  | .push _, .item x => x.toList
  | .pop, .item x => x.toList
  | _, _ => []

/-- What goes in by requests, the first one first. -/
def inputs (xs : List (Request α)) : List α := xs.flatMap Request.input

/-- What comes out by the answers to requests, the first one first. -/
def outputs (xs : List (Request α)) (answers : List (Response α)) : List α :=
  (xs.zipWith Request.output answers).flatten

namespace BoundedQueue

/-- The head and the tail of a list make up the list, also of an empty one. -/
theorem toList_head?_append_tail (l : List α) : l.head?.toList ++ l.tail = l := by
  cases l <;> rfl

/-- **A request other than clearing balances.** -/
theorem balanced_execute (q : BoundedQueue α) {x : Request α} (hx : x ≠ .clear) :
    x.output (q.execute x).2 ++ (q.execute x).1.items = q.items ++ x.input := by
  cases x with
  | push x =>
    unfold execute
    dsimp only
    split
    · show q.items.head?.toList ++ (q.items.tail ++ [x]) = q.items ++ [x]
      rw [← List.append_assoc, toList_head?_append_tail]
    · rfl
  | pop =>
    show q.items.head?.toList ++ q.items.tail = q.items ++ []
    rw [List.append_nil, toList_head?_append_tail]
  | clear => exact absurd rfl hx
  | _ => exact (List.append_nil q.items).symm

/-- **A run without clearing balances.** -/
theorem balanced_run (q : BoundedQueue α) {xs : List (Request α)} (hxs : Request.clear ∉ xs) :
    outputs xs (q.run xs).2 ++ (q.run xs).1.items = q.items ++ inputs xs := by
  induction xs generalizing q with
  | nil => exact (List.append_nil q.items).symm
  | cons x xs ih =>
    obtain ⟨hx, hrest⟩ := List.ne_and_not_mem_of_not_mem_cons hxs
    calc outputs (x :: xs) (q.run (x :: xs)).2 ++ (q.run (x :: xs)).1.items
        = x.output (q.execute x).2 ++
            (outputs xs (run xs (q.execute x).1).2 ++ (run xs (q.execute x).1).1.items) :=
          List.append_assoc _ _ _
      _ = (x.output (q.execute x).2 ++ (q.execute x).1.items) ++ inputs xs := by
          rw [ih _ hrest, List.append_assoc]
      _ = q.items ++ inputs (x :: xs) := by
          rw [balanced_execute q (Ne.symm hx), List.append_assoc]
          rfl

/-- A request other than a pop and clearing adds what goes in, as far as there is room. -/
theorem length_execute (q : BoundedQueue α) (hroom : 0 < q.room) (hle : q.items.length ≤ q.room)
    {x : Request α} (hclear : x ≠ .clear) (hpop : x ≠ .pop) :
    (q.execute x).1.items.length = min (q.items.length + x.input.length) q.room := by
  cases x with
  | push x =>
    unfold execute Request.input
    dsimp only
    split <;> simp <;> omega
  | pop => exact absurd rfl hpop
  | clear => exact absurd rfl hclear
  | _ => exact (Nat.min_eq_left hle).symm

/-- **Without pops a queue is as full as its room allows.** -/
theorem length_run (q : BoundedQueue α) (hroom : 0 < q.room) (hle : q.items.length ≤ q.room)
    {xs : List (Request α)} (hclear : Request.clear ∉ xs) (hpop : Request.pop ∉ xs) :
    (q.run xs).1.items.length = min (q.items.length + (inputs xs).length) q.room := by
  induction xs generalizing q with
  | nil => exact (Nat.min_eq_left hle).symm
  | cons x xs ih =>
    obtain ⟨hxclear, hclear⟩ := List.ne_and_not_mem_of_not_mem_cons hclear
    obtain ⟨hxpop, hpop⟩ := List.ne_and_not_mem_of_not_mem_cons hpop
    have hx := length_execute q hroom hle (Ne.symm hxclear) (Ne.symm hxpop)
    have hrest := ih (q.execute x).1 (by rwa [room_execute]) (by rw [hx, room_execute]; omega)
      hclear hpop
    have hinputs : (inputs (x :: xs)).length = x.input.length + (inputs xs).length := by
      simp [inputs]
    show (run xs (q.execute x).1).1.items.length = _
    rw [hrest, hx, room_execute, hinputs]
    omega

end BoundedQueue

namespace Ring

/-- **A ring loses no item, doubles none and keeps their order.** For any requests to a new ring
other than clearing, and so at any time of such a run:

* What came out of it, one after another, and then what it holds, is what went in.
* So what went in is as much as what came out and what it holds.
* Where nothing was popped, it holds the latest items that went in, as many as fit. -/
theorem keeps_all_in_order (requested : Nat) {xs : List (Request α)} (hxs : Request.clear ∉ xs) :
    let r := (empty requested).run xs
    outputs xs r.2 ++ r.1.toList = inputs xs ∧
      (inputs xs).length = (outputs xs r.2).length + r.1.size ∧
      (Request.pop ∉ xs → r.1.toList = (inputs xs).drop
        ((inputs xs).length - min (inputs xs).length (max requested 1))) := by
  intro r
  let q : BoundedQueue α := { room := max requested 1 }
  have hempty : Holds (empty requested : Ring α) q.items := holds_empty requested
  obtain ⟨hanswers, hitems⟩ := hempty.run (capacity_empty requested) xs
  have hlist : r.1.toList = (q.run xs).1.items := hitems.toList_eq
  have hbalance : outputs xs r.2 ++ r.1.toList = inputs xs := by
    rw [hlist, show r.2 = (q.run xs).2 from hanswers]
    exact q.balanced_run hxs
  have hlength : (inputs xs).length = (outputs xs r.2).length + r.1.toList.length := by
    rw [← hbalance, List.length_append]
  refine ⟨hbalance, ?_, fun hpop => ?_⟩
  · rw [hlength, hlist, hitems.size_eq]
  · have hfull : r.1.toList.length = min (inputs xs).length (max requested 1) := by
      rw [hlist, q.length_run (Nat.le_max_right requested 1) (Nat.zero_le _) hxs hpop]
      exact congrArg (min · _) (Nat.zero_add _)
    have hout : (inputs xs).length - min (inputs xs).length (max requested 1) =
        (outputs xs r.2).length := by
      omega
    rw [hout, ← hbalance, List.drop_left]

/-- A ring with two slots: the first item is displaced, the second one popped, and the ring goes
round its end. -/
theorem keeps_all_in_order_of_two :
    let xs := [.push 'a', .push 'b', .push 'c', .pop, .push 'd', .push 'e', .push 'f']
    let r := (empty 2).run xs
    Request.clear ∉ xs ∧ outputs xs r.2 = ['a', 'b', 'c', 'd'] ∧ r.1.toList = ['e', 'f'] ∧
      outputs xs r.2 ++ r.1.toList = ['a', 'b', 'c', 'd', 'e', 'f'] := by
  intro xs r
  have hxs : Request.clear ∉ xs := by simp [xs]
  exact ⟨hxs, by decide, by decide, (keeps_all_in_order 2 hxs).1⟩

end Ring

end LinkWarden

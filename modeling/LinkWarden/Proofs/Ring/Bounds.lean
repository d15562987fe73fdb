import LinkWarden.Proofs.Ring.Queue

/-!
# A ring stays inside its array and its words

The slot of an item is worked out from the head by a sum and a remainder. As the ring is defined,
numbers have no bounds, and a slot that does not exist reads as free and cannot be written. A
machine is stricter: a sum has to fit into a word, nothing is divided by zero, and a slot that is
read or written has to be there. So the requests are carried out here a second time, with no result
where one of these is violated (`checkedExecute`).

* A ring that holds a list, and has no more slots than an array can have, carries out each request
  under these checks with the same result (`Holds.checkedExecute_eq`).
* Its items lie in the slots from the head on and nowhere else (`Holds.isSome_inSlot_iff`), so
  nothing that is looked up among them is missing.
* **Main statement** (`staysInside_run`): all of this for a new ring after any requests.
-/

namespace LinkWarden.Ring

variable {α : Type}

/-- The largest number of slots that an array can have: the largest signed word. -/
def mostSlots : Nat := 9223372036854775807

/-! ### Requests under checks -/

/-- The sum of two numbers, if it fits into a word. -/
def checkedSum (m n : Nat) : Option Nat := if m + n < UInt64.size then some (m + n) else none

/-- The slot of the item with `index` items before it, if the sum fits and there are slots at
all. -/
def checkedSlotOf (r : Ring α) (index : Nat) : Option Nat := do
  let sum ← checkedSum r.head index
  if r.capacity = 0 then none else some (sum % r.capacity)

/-- The slots with a new content in one of them, and its content before, if there is such a
slot. -/
def checkedExchange (slots : Array (Option α)) (slot : Nat) (v : Option α) :
    Option (Array (Option α) × Option α) :=
  slots[slot]?.map fun before => (slots.setIfInBounds slot v, before)

/-- What lies in the slot of the item with `index` items before it, if there is such a slot. -/
def checkedInSlotOf (r : Ring α) (index : Nat) : Option (Option α) := do
  let slot ← r.checkedSlotOf index
  r.slots[slot]?

/-- A look at an item. -/
def checkedGet (r : Ring α) (index : Nat) : Option (Option α) :=
  if index < r.count then r.checkedInSlotOf index else some none

/-- All items, oldest first. -/
def checkedToList (r : Ring α) : Option (List α) := do
  let contents ← (List.range r.count).mapM r.checkedInSlotOf
  some (contents.filterMap id)

/-- A push. The head moves on to the slot of the second item, and the count is a word as well. -/
def checkedPush (r : Ring α) (x : α) : Option (Ring α × Option α) :=
  if r.count = r.capacity then do
    let (slots, gone) ← checkedExchange r.slots r.head (some x)
    let head ← r.checkedSlotOf 1
    some (⟨slots, head, r.count⟩, gone)
  else do
    let tail ← r.checkedSlotOf r.count
    let (slots, _) ← checkedExchange r.slots tail (some x)
    let count ← checkedSum r.count 1
    some (⟨slots, r.head, count⟩, none)

/-- A pop. -/
def checkedPop (r : Ring α) : Option (Ring α × Option α) :=
  if r.count = 0 then some (r, none) else do
    let (slots, gone) ← checkedExchange r.slots r.head none
    let head ← r.checkedSlotOf 1
    some (⟨slots, head, r.count - 1⟩, gone)

/-- Carries out a request, if it passes all checks. The requests that work out no slot have nothing
to check. -/
def checkedExecute (r : Ring α) : Request α → Option (Ring α × Response α)
  | .push x => (r.checkedPush x).map fun (after, gone) => (after, .item gone)
  | .pop => r.checkedPop.map fun (after, gone) => (after, .item gone)
  | .item index => (r.checkedGet index).map fun x => (r, .item x)
  | .snapshot => r.checkedToList.map fun l => (r, .items l)
  | x => some (r.execute x)

/-- A sum that fits passes its check. -/
theorem checkedSum_of_lt {m n : Nat} (h : m + n < UInt64.size) : checkedSum m n = some (m + n) :=
  if_pos h

/-- A slot of the ring can be read. -/
theorem getElem?_of_lt {r : Ring α} {slot : Nat} (hs : slot < r.capacity) :
    r.slots[slot]? = some (r.inSlot slot) := by
  unfold inSlot
  rw [Array.getElem?_eq_getElem hs]
  rfl

/-- A slot of the ring can be written. -/
theorem checkedExchange_of_lt {r : Ring α} {slot : Nat} (hs : slot < r.capacity) (v : Option α) :
    checkedExchange r.slots slot v = some (r.slots.setIfInBounds slot v, r.inSlot slot) := by
  unfold checkedExchange
  rw [getElem?_of_lt hs]
  rfl

/-- An item lies in a slot of the ring. -/
theorem lt_of_isSome_inSlot {r : Ring α} {slot : Nat} (h : (r.inSlot slot).isSome) :
    slot < r.capacity := by
  refine Nat.lt_of_not_le fun hout => ?_
  unfold inSlot at h
  rw [Array.getElem?_eq_none hout] at h
  cases h

/-- What succeeds for each member of a list succeeds for all of them, one after another. -/
theorem mapM_eq_some_map {β : Type} {f : α → Option β} {g : α → β} {l : List α}
    (h : ∀ x ∈ l, f x = some (g x)) : l.mapM f = some (l.map g) := by
  induction l with
  | nil => rfl
  | cons x l ih =>
    obtain ⟨hx, hl⟩ := List.forall_mem_cons.mp h
    rw [List.mapM_cons, hx, ih hl]
    rfl

namespace Holds

variable {r : Ring α} {l : List α}

/-! ### A ring that holds a list passes all checks -/

section Checks

variable (h : r.Holds l) (hmost : r.capacity ≤ mostSlots)
include h hmost

/-- **The sum behind a slot fits into a word.** -/
theorem sum_lt {i : Nat} (hi : i ≤ r.capacity) : r.head + i < UInt64.size := by
  have hh := h.head_lt
  -- a word has room for two numbers of slots, and the head is smaller than one
  have hsize : UInt64.size = 2 * mostSlots + 2 := rfl
  omega

/-- The slot of an item, or the one after the last item, passes its checks. -/
theorem checkedSlotOf_eq {i : Nat} (hi : i ≤ r.capacity) :
    r.checkedSlotOf i = some (r.slotOf i) := by
  have hpos := h.capacity_pos
  unfold checkedSlotOf
  rw [checkedSum_of_lt (h.sum_lt hmost hi)]
  exact if_neg (by omega)

/-- So does what lies in that slot. -/
theorem checkedInSlotOf_eq {i : Nat} (hi : i ≤ r.capacity) :
    r.checkedInSlotOf i = some (r.inSlot (r.slotOf i)) := by
  unfold checkedInSlotOf
  rw [h.checkedSlotOf_eq hmost hi]
  exact getElem?_of_lt (slotOf_lt h.head_lt i)

/-- A look at an item passes its checks, whatever the index. -/
theorem checkedGet_eq (index : Nat) : r.checkedGet index = some (r.get? index) := by
  have hle := h.length_le
  have hcount := h.length_eq
  unfold checkedGet get?
  split
  · exact h.checkedInSlotOf_eq hmost (by omega)
  · rfl

/-- The view of all items passes its checks. -/
theorem checkedToList_eq : r.checkedToList = some r.toList := by
  have hle := h.length_le
  have hcount := h.length_eq
  have hread : ∀ i ∈ List.range r.count, r.checkedInSlotOf i = some (r.inSlot (r.slotOf i)) := by
    intro i hi
    rw [List.mem_range] at hi
    exact h.checkedInSlotOf_eq hmost (by omega)
  unfold checkedToList toList
  rw [mapM_eq_some_map hread]
  exact congrArg some List.filterMap_map

/-- **A push passes its checks**, with room for the item and without. -/
theorem checkedPush_eq (x : α) : r.checkedPush x = some (r.push x) := by
  have hpos := h.capacity_pos
  have hle := h.length_le
  have hcount := h.length_eq
  unfold checkedPush Ring.push
  split
  · rw [checkedExchange_of_lt h.head_lt, h.checkedSlotOf_eq hmost hpos]
    rfl
  · next hroom =>
    -- with a slot left, the count is still below a sum that fits
    have hsum : r.count + 1 < UInt64.size := by
      have := h.sum_lt hmost (Nat.le_refl r.capacity)
      omega
    rw [h.checkedSlotOf_eq hmost (by omega), Option.bind_eq_bind, Option.bind_some,
      checkedExchange_of_lt (slotOf_lt h.head_lt _), checkedSum_of_lt hsum]
    rfl

/-- **A pop passes its checks**, with items and without. -/
theorem checkedPop_eq : r.checkedPop = some r.pop := by
  have hpos := h.capacity_pos
  unfold checkedPop Ring.pop
  split
  · rfl
  · rw [checkedExchange_of_lt h.head_lt, h.checkedSlotOf_eq hmost hpos]
    rfl

/-- **Each request passes all checks**, and its result is the same. -/
theorem checkedExecute_eq (x : Request α) : r.checkedExecute x = some (r.execute x) := by
  cases x with
  | push x => exact congrArg (Option.map _) (h.checkedPush_eq hmost x)
  | pop => exact congrArg (Option.map _) (h.checkedPop_eq hmost)
  | item index => exact congrArg (Option.map _) (h.checkedGet_eq hmost index)
  | snapshot => exact congrArg (Option.map _) (h.checkedToList_eq hmost)
  | _ => rfl

end Checks

/-! ### Nothing is missing in a ring that holds a list -/

/-- **Items lie in the slots from the head on**, as many as there are items, and nowhere else. -/
theorem isSome_inSlot_iff (h : r.Holds l) (slot : Nat) :
    (r.inSlot slot).isSome ↔ ∃ i < r.count, slot = r.slotOf i := by
  have hle := h.length_le
  have hcount := h.length_eq
  constructor
  · intro hsome
    obtain ⟨i, hi, rfl⟩ := exists_slotOf_eq h.head_lt (lt_of_isSome_inSlot hsome)
    rw [h.inSlot_eq i hi, isSome_getElem?, hcount] at hsome
    exact ⟨i, hsome, rfl⟩
  · rintro ⟨i, hi, rfl⟩
    rw [h.inSlot_eq i (by omega), isSome_getElem?, hcount]
    exact hi

/-- What the view reads, slot by slot, are items. -/
theorem map_some_toList (h : r.Holds l) :
    r.toList.map some = (List.range r.size).map fun i => r.inSlot (r.slotOf i) := by
  have hle := h.length_le
  rw [h.toList_eq, h.size_eq]
  refine List.ext_getElem (by simp) fun i hi _ => ?_
  rw [List.length_map] at hi
  rw [List.getElem_map, List.getElem_map, List.getElem_range, h.inSlot_eq i (by omega),
    List.getElem?_eq_getElem hi]

/-- No item is missing: there is one at each index below their number. -/
theorem isSome_get? (h : r.Holds l) {i : Nat} (hi : i < r.size) : (r.get? i).isSome := by
  rw [h.get?_eq, isSome_getElem?, ← h.size_eq]
  exact hi

/-- A pop finds an item as long as there is one. -/
theorem isSome_pop (h : r.Holds l) (hsize : 0 < r.size) : r.pop.2.isSome := by
  rw [h.pop.2, List.head?_eq_getElem?, isSome_getElem?, ← h.size_eq]
  exact hsize

end Holds

/-! ### After any requests -/

/-- The slots that a ring works out are slots of it, and the items are in them. -/
structure StaysInside (r : Ring α) : Prop where
  /-- The head is a slot of the ring. -/
  head_lt : r.head < r.capacity
  /-- There are no more items than slots. -/
  count_le : r.count ≤ r.capacity
  /-- Items lie in the slots from the head on, as many as there are items, and nowhere else. -/
  isSome_inSlot_iff : ∀ slot, (r.inSlot slot).isSome ↔ ∃ i < r.count, slot = r.slotOf i
  /-- No two items lie in one slot. -/
  slotOf_inj : ∀ i < r.count, ∀ j < r.count, r.slotOf i = r.slotOf j → i = j
  /-- From the head on, all the way round, the sums fit into a word, and what is worked out is a
  slot of the ring. -/
  slotOf_lt : ∀ i ≤ r.capacity, r.head + i < UInt64.size ∧ r.slotOf i < r.capacity
  /-- No request works out more than that: each one passes all checks, and its result is the
  same. -/
  checkedExecute_eq : ∀ x, r.checkedExecute x = some (r.execute x)
  /-- There is an item at each place below the size. -/
  isSome_get? : ∀ i < r.size, (r.get? i).isSome
  /-- The view leaves out nothing that it reads. -/
  map_some_toList : r.toList.map some = (List.range r.size).map fun i => r.inSlot (r.slotOf i)
  /-- A ring that is not empty has an item to take out. -/
  isSome_pop : 0 < r.size → r.pop.2.isSome

/-- **A ring stays inside its array and its words.** Whatever has been asked of a new ring with no
more slots than an array can have, it still has the slots that it began with; the slots that it
works out are among them, without an overflow, and the items are where it looks for them. -/
theorem staysInside_run {requested : Nat} (hmost : requested ≤ mostSlots) (xs : List (Request α)) :
    let r := ((empty requested).run xs).1
    r.capacity = max requested 1 ∧ r.StaysInside := by
  intro r
  have hcap : r.capacity = max requested 1 := by
    rw [capacity_run, capacity_empty]
  have hfit : r.capacity ≤ mostSlots := by
    rw [hcap]
    exact Nat.max_le.mpr ⟨hmost, by decide⟩
  let q : BoundedQueue α := { room := max requested 1 }
  have hempty : Holds (empty requested : Ring α) q.items := holds_empty requested
  have hitems : r.Holds (q.run xs).1.items := (hempty.run (capacity_empty requested) xs).2
  have hcount : r.count ≤ r.capacity := hitems.length_eq ▸ hitems.length_le
  exact ⟨hcap,
    { head_lt := hitems.head_lt
      count_le := hcount
      isSome_inSlot_iff := hitems.isSome_inSlot_iff
      slotOf_inj := fun i hi j hj => slotOf_inj hitems.head_lt (by omega) (by omega)
      slotOf_lt := fun i hi => ⟨hitems.sum_lt hfit hi, slotOf_lt hitems.head_lt i⟩
      checkedExecute_eq := hitems.checkedExecute_eq hfit
      isSome_get? := fun i => hitems.isSome_get?
      map_some_toList := hitems.map_some_toList
      isSome_pop := hitems.isSome_pop }⟩

/-- A ring with three slots that has gone round its end: the items lie in its last slot and in the
two before the head. -/
theorem staysInside_run_wrapped :
    let xs := [.push 'a', .push 'b', .pop, .push 'c', .push 'd', .push 'e', .item 2, .snapshot]
    let r := ((empty 3).run xs).1
    3 ≤ mostSlots ∧ r.head = 2 ∧ r.slots = #[some 'd', some 'e', some 'c'] ∧
      r.capacity = 3 ∧ r.StaysInside := by
  intro xs r
  have hmost : 3 ≤ mostSlots := by decide
  exact ⟨hmost, by decide, by decide, staysInside_run hmost xs⟩

end LinkWarden.Ring

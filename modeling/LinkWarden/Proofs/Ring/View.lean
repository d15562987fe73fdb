import LinkWarden.Ring

/-!
# What a ring holds

A ring *holds* a list if the items of the list, oldest first, lie in the slots from the head on, and
all other slots are free. A ring holds one list at most, and this is its view `toList`.

* Each operation does to the list that is held what it should do to a list: `Holds.push_of_full`,
  `Holds.push_of_lt`, `Holds.pop`, `Holds.clear`.
* A push keeps the latest items, as many as fit (`Holds.push`), and so do many pushes
  (`Holds.pushAll`).
* An item is read where the list has it (`Holds.get?_eq`).

All of it rests on one fact about slots: from the head on, each slot is met once before the head is
met again (`slotOf_inj`).
-/

namespace LinkWarden.Ring

variable {α : Type}

/-! ### Slots -/

/-- The way round the slots comes past the end of the array once. -/
theorem slotOf_eq {r : Ring α} (hh : r.head < r.capacity) {i : Nat} (hi : i ≤ r.capacity) :
    r.slotOf i = if r.head + i < r.capacity then r.head + i else r.head + i - r.capacity := by
  unfold slotOf
  split
  · next hlt => exact Nat.mod_eq_of_lt hlt
  · next hge =>
    rw [Nat.mod_eq_sub_mod (by omega)]
    exact Nat.mod_eq_of_lt (by omega)

/-- The way round leads to slots of the ring only. -/
theorem slotOf_lt {r : Ring α} (hh : r.head < r.capacity) (i : Nat) : r.slotOf i < r.capacity :=
  Nat.mod_lt _ (by omega)

/-- It begins at the head. -/
theorem slotOf_zero {r : Ring α} (hh : r.head < r.capacity) : r.slotOf 0 = r.head :=
  Nat.mod_eq_of_lt hh

/-- After as many slots as there are, the head is met again. -/
theorem slotOf_capacity {r : Ring α} (hh : r.head < r.capacity) : r.slotOf r.capacity = r.head := by
  rw [slotOf_eq hh (Nat.le_refl _), if_neg (by omega)]
  omega

/-- **Before that, no slot is met twice.** -/
theorem slotOf_inj {r : Ring α} (hh : r.head < r.capacity) {i j : Nat} (hi : i < r.capacity)
    (hj : j < r.capacity) (h : r.slotOf i = r.slotOf j) : i = j := by
  rw [slotOf_eq hh (by omega), slotOf_eq hh (by omega)] at h
  split at h <;> split at h <;> omega

/-- **Every slot is met on the way round.** -/
theorem exists_slotOf_eq {r : Ring α} (hh : r.head < r.capacity) {slot : Nat}
    (hs : slot < r.capacity) : ∃ i < r.capacity, r.slotOf i = slot := by
  by_cases hbefore : slot < r.head
  · -- the slots before the head come after the end of the array
    refine ⟨slot + r.capacity - r.head, by omega, ?_⟩
    rw [slotOf_eq hh (by omega), if_neg (by omega)]
    omega
  · refine ⟨slot - r.head, by omega, ?_⟩
    rw [slotOf_eq hh (by omega), if_pos (by omega)]
    omega

/-- A ring with another item in a slot, or with none in it. -/
theorem inSlot_set {r : Ring α} {slots : Array (Option α)} {head count slot : Nat} {v : Option α}
    (hslots : slots = r.slots.setIfInBounds slot v) (hs : slot < r.capacity) (t : Nat) :
    Ring.inSlot ⟨slots, head, count⟩ t = if t = slot then v else r.inSlot t := by
  subst hslots
  unfold inSlot
  by_cases h : t = slot
  · subst h
    rw [if_pos rfl, Array.getElem?_setIfInBounds_self_of_lt hs]
    rfl
  · rw [if_neg h, Array.getElem?_setIfInBounds_ne (Ne.symm h)]

/-! ### The list that a ring holds -/

/-- A list is gathered from its items. -/
theorem filterMap_range_length {f : Nat → Option α} {l : List α}
    (h : ∀ i < l.length, f i = l[i]?) : (List.range l.length).filterMap f = l := by
  induction l generalizing f with
  | nil => rfl
  | cons x l ih =>
    have hx : f 0 = some x := h 0 (by simp)
    have hl : (List.range l.length).filterMap (f ∘ Nat.succ) = l :=
      ih fun i hi => h (i + 1) (by simpa using hi)
    rw [List.length_cons, List.range_succ_eq_map, List.filterMap_cons_some hx, List.filterMap_map,
      hl]

/-- The items of the list, oldest first, lie in the slots from the head on, and the other slots are
free. -/
structure Holds (r : Ring α) (l : List α) : Prop where
  head_lt : r.head < r.capacity
  length_eq : l.length = r.count
  length_le : l.length ≤ r.capacity
  inSlot_eq : ∀ i < r.capacity, r.inSlot (r.slotOf i) = l[i]?

/-- A ring all of whose slots are free holds nothing. -/
theorem holds_nil {n : Nat} (hn : 0 < n) : Holds (⟨Array.replicate n none, 0, 0⟩ : Ring α) [] := by
  have hcap : capacity (⟨Array.replicate n none, 0, 0⟩ : Ring α) = n := by simp [capacity]
  refine ⟨?_, rfl, Nat.zero_le _, ?_⟩
  · rw [hcap]
    exact hn
  · intro i _
    unfold inSlot
    rw [Array.getElem?_replicate]
    split <;> rfl

/-- A new ring holds nothing. -/
theorem holds_empty (requested : Nat) : Holds (empty requested : Ring α) [] :=
  holds_nil (by omega)

namespace Holds

variable {r : Ring α} {l : List α}

/-- A ring that holds a list has a slot. -/
theorem capacity_pos (h : r.Holds l) : 0 < r.capacity := Nat.zero_lt_of_lt h.head_lt

/-! ### Queries -/

/-- **An item is read where the list has it**, and nothing is read beyond its end. -/
theorem get?_eq (h : r.Holds l) (i : Nat) : r.get? i = l[i]? := by
  have hle := h.length_le
  unfold get?
  rw [← h.length_eq]
  split
  · next hi => exact h.inSlot_eq i (by omega)
  · next hi => exact (List.getElem?_eq_none (by omega)).symm

/-- **The list that is held is the view of the ring.** -/
theorem toList_eq (h : r.Holds l) : r.toList = l := by
  have hle := h.length_le
  unfold toList
  rw [← h.length_eq]
  exact filterMap_range_length fun i hi => h.inSlot_eq i (by omega)

/-- The size of the ring is the length of the list. -/
theorem size_eq (h : r.Holds l) : r.size = l.length := h.length_eq.symm

/-- The ring is empty just if the list is. -/
theorem isEmpty_eq (h : r.Holds l) : r.isEmpty = l.isEmpty := by
  unfold isEmpty
  rw [← h.length_eq]
  cases l <;> rfl

/-- The ring is full just if the list takes all of its slots. -/
theorem isFull_eq (h : r.Holds l) : r.isFull = (l.length == r.capacity) := by
  unfold isFull
  rw [h.length_eq]

/-- The oldest item lies at the head. -/
theorem inSlot_head (h : r.Holds l) : r.inSlot r.head = l.head? := by
  have := h.inSlot_eq 0 h.capacity_pos
  rw [slotOf_zero h.head_lt] at this
  rw [this, List.head?_eq_getElem?]

/-! ### Changes -/

/-- The head moves on by one slot, and the slot that it leaves, now the last one of the way round,
gets a new content. -/
theorem advance (h : r.Holds l) {m : List α} {v : Option α} (hl : m.length ≤ r.capacity)
    (hm : ∀ i < r.capacity, m[i]? = if i + 1 = r.capacity then v else l[i + 1]?) :
    Holds ⟨r.slots.setIfInBounds r.head v, (r.head + 1) % r.capacity, m.length⟩ m := by
  have hh := h.head_lt
  have hcap : capacity ⟨r.slots.setIfInBounds r.head v, (r.head + 1) % r.capacity, m.length⟩ =
      r.capacity := by
    simp [capacity]
  refine ⟨?_, rfl, ?_, ?_⟩
  · rw [hcap]
    exact Nat.mod_lt _ h.capacity_pos
  · rw [hcap]
    exact hl
  · intro i hi
    rw [hcap] at hi
    -- the slot with `i` items before it is the one that had an item more before it
    have hslot : slotOf
        ⟨r.slots.setIfInBounds r.head v, (r.head + 1) % r.capacity, m.length⟩ i =
        r.slotOf (i + 1) := by
      unfold slotOf
      rw [hcap, Nat.mod_add_mod, Nat.add_assoc, Nat.add_comm 1 i]
    rw [hslot, inSlot_set rfl hh, hm i hi]
    by_cases hlast : i + 1 = r.capacity
    · rw [hlast, slotOf_capacity hh, if_pos rfl, if_pos rfl]
    · have hne : r.slotOf (i + 1) ≠ r.head := by
        intro heq
        have := slotOf_inj hh (by omega) h.capacity_pos (heq.trans (slotOf_zero hh).symm)
        omega
      rw [if_neg hne, if_neg hlast]
      exact h.inSlot_eq (i + 1) (by omega)

/-- **A full ring gives up its oldest item for the new one.** -/
theorem push_of_full (h : r.Holds l) (hf : l.length = r.capacity) (x : α) :
    Holds (r.push x).1 (l.tail ++ [x]) ∧ (r.push x).2 = l.head? := by
  have hpos := h.capacity_pos
  have hlen : (l.tail ++ [x]).length = r.count := by
    have := h.length_eq
    simp
    omega
  have hpush : r.push x =
      (⟨r.slots.setIfInBounds r.head (some x), (r.head + 1) % r.capacity, (l.tail ++ [x]).length⟩,
        r.inSlot r.head) := by
    unfold push
    rw [if_pos (h.length_eq ▸ hf), hlen]
  rw [hpush]
  refine ⟨h.advance (by have := h.length_eq; omega) ?_, h.inSlot_head⟩
  intro i hi
  by_cases hlast : i + 1 = r.capacity
  · rw [if_pos hlast, List.getElem?_append_right (by simp; omega)]
    have : i - l.tail.length = 0 := by
      simp
      omega
    rw [this]
    rfl
  · rw [if_neg hlast, List.getElem?_append_left (by simp; omega), List.getElem?_tail]

/-- **A ring with room takes the new item behind the others.** -/
theorem push_of_lt (h : r.Holds l) (hlt : l.length < r.capacity) (x : α) :
    Holds (r.push x).1 (l ++ [x]) ∧ (r.push x).2 = none := by
  have hcount := h.length_eq
  have hh := h.head_lt
  have hpush : r.push x =
      (⟨r.slots.setIfInBounds (r.slotOf r.count) (some x), r.head, r.count + 1⟩, none) := by
    unfold push
    rw [if_neg (by omega)]
  have hcap : capacity ⟨r.slots.setIfInBounds (r.slotOf r.count) (some x), r.head, r.count + 1⟩ =
      r.capacity := by
    simp [capacity]
  rw [hpush]
  refine ⟨⟨?_, by simp [hcount], ?_, ?_⟩, rfl⟩
  · rw [hcap]
    exact hh
  · rw [hcap]
    simp
    omega
  · intro i hi
    rw [hcap] at hi
    have hslot : slotOf
        ⟨r.slots.setIfInBounds (r.slotOf r.count) (some x), r.head, r.count + 1⟩ i =
        r.slotOf i := congrArg ((r.head + i) % ·) hcap
    rw [hslot, inSlot_set rfl (slotOf_lt hh _), h.inSlot_eq i hi]
    by_cases hi' : i = r.count
    · subst hi'
      rw [if_pos rfl, ← hcount]
      simp
    · have hne : r.slotOf i ≠ r.slotOf r.count := fun heq =>
        hi' (slotOf_inj hh hi (by omega) heq)
      rw [if_neg hne]
      by_cases hlen : i < l.length
      · rw [List.getElem?_append_left hlen]
      · rw [List.getElem?_eq_none (by omega), List.getElem?_eq_none (by simp; omega)]

/-- A push keeps the latest items, as many as fit. -/
theorem push (h : r.Holds l) (x : α) :
    Holds (r.push x).1 ((l ++ [x]).drop ((l ++ [x]).length - r.capacity)) := by
  have hle := h.length_le
  have hpos := h.capacity_pos
  rcases Nat.lt_or_eq_of_le hle with hlt | hf
  · have hdrop : (l ++ [x]).length - r.capacity = 0 := by
      simp
      omega
    rw [hdrop]
    exact (h.push_of_lt hlt x).1
  · have hdrop : (l ++ [x]).length - r.capacity = 1 := by
      simp
      omega
    rw [hdrop, List.drop_append_of_le_length (by omega), List.drop_one]
    exact (h.push_of_full hf x).1

/-- **After many pushes a ring holds the latest items**, as many as fit. -/
theorem pushAll (h : r.Holds l) (xs : List α) :
    Holds (xs.foldl (fun r x => (r.push x).1) r)
      ((l ++ xs).drop ((l ++ xs).length - r.capacity)) := by
  induction xs generalizing r l with
  | nil =>
    have hle := h.length_le
    have hdrop : (l ++ []).length - r.capacity = 0 := by
      simp
      omega
    rw [hdrop, List.drop_zero, List.append_nil]
    exact h
  | cons x xs ih =>
    have hpush := ih (h.push x)
    -- what the first push drops would be dropped in the end as well
    rw [capacity_push, ← List.drop_append_of_le_length (by omega), List.drop_drop,
      List.append_assoc, List.singleton_append] at hpush
    have hdrop : (l ++ [x]).length - r.capacity +
        (((l ++ x :: xs).drop ((l ++ [x]).length - r.capacity)).length - r.capacity) =
        (l ++ x :: xs).length - r.capacity := by
      simp only [List.length_drop, List.length_append, List.length_cons, List.length_nil]
      omega
    rwa [hdrop] at hpush

/-- **A pop takes the oldest item**, if there is one. -/
theorem pop (h : r.Holds l) : Holds r.pop.1 l.tail ∧ r.pop.2 = l.head? := by
  have hcount := h.length_eq
  cases l with
  | nil =>
    have hpop : r.pop = (r, none) := by
      unfold Ring.pop
      exact if_pos hcount.symm
    rw [hpop]
    exact ⟨h, rfl⟩
  | cons y l =>
    have hpop : r.pop =
        (⟨r.slots.setIfInBounds r.head none, (r.head + 1) % r.capacity, l.length⟩,
          r.inSlot r.head) := by
      rw [List.length_cons] at hcount
      unfold Ring.pop
      rw [if_neg (by omega), ← hcount, Nat.add_sub_cancel]
    have hle := h.length_le
    rw [List.length_cons] at hle
    rw [hpop]
    refine ⟨h.advance (by omega) ?_, h.inSlot_head⟩
    intro i hi
    by_cases hlast : i + 1 = r.capacity
    · rw [if_pos hlast, List.getElem?_eq_none (by omega)]
    · rw [if_neg hlast]
      rfl

/-- **A ring that is cleared holds nothing.** -/
theorem clear (h : r.Holds l) : Holds r.clear [] := holds_nil h.capacity_pos

end Holds

end LinkWarden.Ring

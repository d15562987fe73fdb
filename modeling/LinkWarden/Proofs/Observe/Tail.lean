import LinkWarden.Proofs.Observe.Evolution
import LinkWarden.Proofs.Ring.View
import Mathlib.Data.List.Chain
import Mathlib.Data.List.DropRight
import Mathlib.Data.List.Nodup

/-!
# The tail of every component's history

Cells that share a history push each other's records out of it. What is left is the tail of all that
has happened, and so it is for every single cell: the records that are left of it are its latest
ones, each goes on from where the one before has ended, and the last one ends with the present
value.

* `Chained` is what has happened to one cell: changes that lead from its first value to its present
  one (`Evolves.chained`).
* `Evolves.history` says that the history has got a record of every change, in their order.
* `keepsTail_run` puts the two together for every sequence of commands.
-/

namespace LinkWarden

/-! ### Changes of one value -/

/-- The changes lead from one value to another: each begins with the value that the one before has
ended with. -/
def Chained {α : Type} : α → List (Change α) → α → Prop
  | v, [], w => v = w
  | v, c :: cs, w => c.old = v ∧ Chained c.new cs w

namespace Chained

variable {α : Type} {u v w : α} {cs ds : List (Change α)}

/-- Changes that lead on from where others have ended lead all the way. -/
theorem append (h : Chained u cs v) (h' : Chained v ds w) : Chained u (cs ++ ds) w := by
  induction cs generalizing u with
  | nil =>
    obtain rfl : u = v := h
    exact h'
  | cons c cs ih => exact ⟨h.1, ih h.2⟩

/-- Each change begins where the one before has ended. -/
theorem isChain (h : Chained u cs w) : cs.IsChain fun c d => c.new = d.old := by
  induction cs generalizing u with
  | nil => exact .nil
  | cons c cs ih =>
    cases cs with
    | nil => exact .singleton c
    | cons d ds => exact .cons_cons h.2.1.symm (ih h.2)

/-- The last change ends with the present value. -/
theorem new_of_getLast? (h : Chained u cs w) {c : Change α} (hc : cs.getLast? = some c) :
    c.new = w := by
  induction cs generalizing u with
  | nil => cases hc
  | cons d ds ih =>
    cases ds with
    | nil =>
      obtain rfl : d = c := by simpa using hc
      exact h.2
    | cons e es => exact ih h.2 (by simpa using hc)

end Chained

/-- Lists that look alike have items that look alike at the same places. -/
theorem exists_getElem?_of_map_eq {β γ : Type} {f : β → γ} {l m : List β} (h : m.map f = l.map f)
    {i : Nat} {x : β} (hx : l[i]? = some x) : ∃ y, m[i]? = some y ∧ f y = f x := by
  have hi := congrArg (fun l => l[i]?) h
  simp only [List.getElem?_map, hx] at hi
  exact Option.map_eq_some_iff.mp hi

/-- What never changes of a cell. -/
def Cell.face {α : Type} (c : Cell α) : String × (α → String) × Bool :=
  (c.id, c.describe, c.recorded)

/-! ### The history -/

namespace History

/-- Records are added, one after another. -/
def appendAll (h : History) (rs : List Record) : History := rs.foldl (fun h r => (h.append r).1) h

/-- Records that are added in two rounds are added one after another. -/
theorem appendAll_append (h : History) (rs ss : List Record) :
    h.appendAll (rs ++ ss) = (h.appendAll rs).appendAll ss :=
  List.foldl_append

/-- **A history keeps the latest records**, as many as it has room for. -/
theorem records_appendAll_empty (k : Nat) (rs : List Record) :
    ((empty k).appendAll rs).records = rs.rtake (max k 1) := by
  have hring : ((empty k).appendAll rs).ring =
      rs.foldl (fun r x => (r.push x).1) (Ring.empty k) :=
    (List.foldl_hom ring fun _ _ => rfl).symm
  have hholds := (Ring.holds_empty k).pushAll rs
  rw [← hring, List.nil_append, Ring.capacity_empty] at hholds
  exact hholds.toList_eq

/-- The latest record of a component is the last one of its records. -/
theorem lastFor?_eq (h : History) (component : String) :
    h.lastFor? component = (h.records.filter fun r => r.component == component).getLast? := by
  unfold lastFor?
  rw [← List.head?_filter, List.filter_reverse, List.head?_reverse]

end History

namespace Board

variable {α : Type}

/-! ### What never changes -/

/-- The text of a value of the cell at a place. -/
def describeAt (b : Board α) (i : Nat) (v : α) : String :=
  (b.cells[i]?.map fun c => c.describe v).getD ""

/-- The record that is made of a change. -/
def recordOf (b : Board α) (c : Change α) : Record :=
  { component := c.id
    before := b.describeAt c.cell c.old
    after := b.describeAt c.cell c.new
    time := c.time }

/-- What record is made of a change is a matter of what never changes of the cells. -/
theorem recordOf_congr {b b' : Board α} (h : b'.cells.map Cell.face = b.cells.map Cell.face) :
    b'.recordOf = b.recordOf := by
  have hlook : ∀ (d : Board α) (i : Nat) (v : α), d.describeAt i v =
      ((d.cells.map Cell.face)[i]?.map fun f => f.2.1 v).getD "" := by
    intro d i v
    rw [List.getElem?_map, Option.map_map]
    rfl
  funext c
  simp only [recordOf, hlook, h]

/-- Boards that differ in registrations and listeners only agree about that. -/
theorem map_face_of_agrees {b b' : Board α} (h : Agrees b b') :
    b'.cells.map Cell.face = b.cells.map Cell.face := by
  have hbare : ∀ cs : List (Cell α), (cs.map Cell.bare).map Cell.face = cs.map Cell.face := by
    intro cs
    rw [List.map_map]
    rfl
  rw [← hbare, h.cells, hbare]

/-- A change puts the changed cell in the place of the old one. -/
theorem cells_change {b : Board α} {i : Nat} {c : Cell α} (hc : b.cells[i]? = some c) (new : α) :
    (b.change i new).cells = b.cells.set i (c.change b.isAlive new) := by
  unfold change
  rw [hc]
  dsimp only
  split <;> rfl

/-- So a change leaves alone what never changes of the cells. -/
theorem map_face_change {b : Board α} {i : Nat} {c : Cell α} (hc : b.cells[i]? = some c)
    (new : α) : (b.change i new).cells.map Cell.face = b.cells.map Cell.face := by
  rw [cells_change hc, List.map_set]
  apply List.ext_getElem?
  intro j
  rw [List.getElem?_set, List.getElem?_map]
  split
  · next hij =>
    subst hij
    obtain ⟨hi, rfl⟩ := List.getElem?_eq_some_iff.mp hc
    simp [hi, Cell.face, Cell.change]
  · rfl

/-- The change of a recorded cell adds its record. -/
theorem history_change {b : Board α} {i : Nat} {c : Cell α} (hc : b.cells[i]? = some c)
    (hrecorded : c.recorded = true) (new : α) :
    (b.change i new).history = b.history.map fun h => h.appendAll
      [b.recordOf (b.changeOf i c new)] := by
  have hrecord : b.recordOf (b.changeOf i c new) =
      { component := c.id, before := c.describe c.value, after := c.describe new,
        time := b.clock } := by
    simp [recordOf, describeAt, changeOf, hc]
  rw [hrecord]
  unfold change
  rw [hc]
  dsimp only
  rw [if_pos hrecorded]
  rfl

section Evolution

variable [BEq α] {b b' : Board α} {cs : List (Change α)}

/-- So the cells keep it all along. -/
theorem Evolves.map_face (h : Evolves b cs b') : b'.cells.map Cell.face = b.cells.map Cell.face := by
  induction h with
  | still h => exact map_face_of_agrees h
  | change hc _ => exact map_face_change hc _
  | trans _ _ ih ih' => exact ih'.trans ih

/-! ### What happens to the history -/

/-- **The history gets a record of every change, in their order.** -/
theorem Evolves.history (h : Evolves b cs b') (hrecorded : ∀ c ∈ b.cells, c.recorded = true) :
    b'.history = b.history.map fun h => h.appendAll (cs.map b.recordOf) := by
  induction h with
  | @still b b' h =>
    rw [h.history]
    exact Option.map_id'.symm
  | change hc _ => exact history_change hc (hrecorded _ (List.mem_of_getElem? hc)) _
  | @trans b b' b'' cs ds h h' ih ih' =>
    have hface := h.map_face
    have hrecorded' : ∀ c ∈ b'.cells, c.recorded = true := by
      intro c hc
      obtain ⟨i, hi⟩ := List.mem_iff_getElem?.mp hc
      obtain ⟨d, hd, hsame⟩ := exists_getElem?_of_map_eq hface.symm hi
      have hboth : d.recorded = c.recorded := congrArg (fun p => p.2.2) hsame
      rw [← hboth]
      exact hrecorded d (List.mem_of_getElem? hd)
    rw [ih' hrecorded', ih hrecorded, recordOf_congr hface, List.map_append, Option.map_map]
    congr 1
    funext hist
    exact (hist.appendAll_append _ _).symm

/-! ### What happens to a cell -/

/-- The changes of the cell at a place. -/
def changesOf (i : Nat) (cs : List (Change α)) : List (Change α) := cs.filter fun c => c.cell == i

/-- **The changes of a cell lead from its value to the one that it has in the end.** -/
theorem Evolves.chained (h : Evolves b cs b') {i : Nat} {c : Cell α} (hc : b.cells[i]? = some c) :
    ∃ c', b'.cells[i]? = some c' ∧ Chained c.value (changesOf i cs) c'.value := by
  induction h generalizing c with
  | @still b b' h =>
    obtain ⟨c', hc', hbare⟩ := exists_getElem?_of_map_eq h.cells hc
    have hvalue : c'.bare.value = c.bare.value := congrArg Cell.value hbare
    exact ⟨c', hc', hvalue.symm⟩
  | @change b j d new hd _ =>
    rw [cells_change hd, List.getElem?_set]
    by_cases hij : j = i
    · subst hij
      obtain rfl : d = c := Option.some.inj (hd.symm.trans hc)
      obtain ⟨hj, -⟩ := List.getElem?_eq_some_iff.mp hd
      refine ⟨d.change b.isAlive new, by simp [hj], ?_⟩
      simp [changesOf, changeOf, Chained, Cell.change]
    · refine ⟨c, by simp [hij, hc], ?_⟩
      simp [changesOf, changeOf, Chained, hij]
  | trans _ _ ih ih' =>
    obtain ⟨c', hc', hchained⟩ := ih hc
    obtain ⟨c'', hc'', hchained'⟩ := ih' hc'
    refine ⟨c'', hc'', ?_⟩
    unfold changesOf
    rw [List.filter_append]
    exact hchained.append hchained'

/-- **A change is one of a cell of the board, and it gives it another value.** -/
theorem Evolves.mem (h : Evolves b cs b') {ch : Change α} (hch : ch ∈ cs) :
    (ch.new == ch.old) = false ∧ ∃ c, b.cells[ch.cell]? = some c ∧ ch.id = c.id := by
  induction h with
  | still => cases hch
  | change hc hne =>
    obtain rfl := List.mem_singleton.mp hch
    exact ⟨hne, _, hc, rfl⟩
  | @trans b b' b'' cs ds h h' ih ih' =>
    rcases List.mem_append.mp hch with hch | hch
    · exact ih hch
    · obtain ⟨hne, c', hc', hid⟩ := ih' hch
      obtain ⟨c, hc, hface⟩ := exists_getElem?_of_map_eq h.map_face.symm hc'
      exact ⟨hne, c, hc, hid.trans (congrArg Prod.fst hface).symm⟩

end Evolution

/-! ### The tail -/

/-- What the history tells of the cell at a place. It was `c` at first and has the value `now`; the
changes are all that there have been, and `kept` the latest of them. -/
structure Tells (b : Board α) (h : History) (i : Nat) (c : Cell α) (now : α)
    (changes kept : List (Change α)) : Prop where
  chained : Chained c.value (changesOf i changes) now
  /-- The records that are left of the cell are the latest of its own. -/
  suffix : h.records.filter (fun r => r.component == c.id) <:+ (changesOf i changes).map b.recordOf
  /-- Each of them goes on from where the one before has ended. -/
  linked : (h.records.filter fun r => r.component == c.id).IsChain fun r s => r.after = s.before
  forgotten : h.lastFor? c.id = none ↔ ∀ ch ∈ kept, ch.cell ≠ i
  latest : ∀ r, h.lastFor? c.id = some r → r.after = c.describe now

/-- A history with room for `k` records, one at least, keeps the tail of the changes that have led
from a board to another one. -/
structure KeepsTail [BEq α] (k : Nat) (b b' : Board α) (changes : List (Change α))
    (h : History) : Prop where
  records : h.records = (changes.map b.recordOf).rtake (max k 1)
  differ : ∀ ch ∈ changes, (ch.new == ch.old) = false
  cells : ∀ i c, b.cells[i]? = some c → ∃ c', b'.cells[i]? = some c' ∧
    b.Tells h i c c'.value changes (changes.rtake (max k 1))

/-- Cells with different ids are told apart by them. -/
theorem eq_of_id_eq {b : Board α} (hids : (b.cells.map Cell.id).Nodup) {i j : Nat} {c d : Cell α}
    (hc : b.cells[i]? = some c) (hd : b.cells[j]? = some d) (h : d.id = c.id) : j = i := by
  have hj := (List.getElem?_eq_some_iff.mp hd).1
  refine (List.getElem?_inj (by simpa using hj) hids).mp ?_
  rw [List.getElem?_map, List.getElem?_map, hc, hd, Option.map_some, Option.map_some, h]

/-- The latest items of a list are its end. -/
theorem rtake_suffix {β : Type} (l : List β) (n : Nat) : l.rtake n <:+ l := List.drop_suffix _ _

section Tail

variable [BEq α] {b b' : Board α} {changes : List (Change α)}

/-- The records of a cell are those of its changes. -/
theorem Evolves.filter_map_recordOf (he : Evolves b changes b')
    (hids : (b.cells.map Cell.id).Nodup) {i : Nat} {c : Cell α} (hc : b.cells[i]? = some c)
    {kept : List (Change α)} (hkept : kept <:+ changes) :
    (kept.map b.recordOf).filter (fun r => r.component == c.id) =
      (changesOf i kept).map b.recordOf := by
  rw [List.filter_map]
  congr 1
  refine List.filter_congr fun ch hch => ?_
  obtain ⟨-, d, hd, hid⟩ := he.mem (hkept.subset hch)
  by_cases hcell : ch.cell = i
  · subst hcell
    obtain rfl : d = c := Option.some.inj (hd.symm.trans hc)
    simp [recordOf, hid]
  · have hne : d.id ≠ c.id := fun h => hcell (eq_of_id_eq hids hc hd h)
    simp [recordOf, hid, hne, hcell]

/-- **What is left of a cell in the history is the tail of its own history.** -/
theorem Evolves.tells (he : Evolves b changes b') (hids : (b.cells.map Cell.id).Nodup)
    {h : History} {kept : List (Change α)} (hkept : kept <:+ changes)
    (hrecords : h.records = kept.map b.recordOf) {i : Nat} {c : Cell α}
    (hc : b.cells[i]? = some c) :
    ∃ c', b'.cells[i]? = some c' ∧ b.Tells h i c c'.value changes kept := by
  obtain ⟨c', hc', hchained⟩ := he.chained hc
  have hown : h.records.filter (fun r => r.component == c.id) =
      (changesOf i kept).map b.recordOf := by
    rw [hrecords]
    exact he.filter_map_recordOf hids hc hkept
  have hsuffix : changesOf i kept <:+ changesOf i changes := hkept.filter _
  have hcell : ∀ ch ∈ changesOf i changes, ch.cell = i := by
    intro ch hch
    simpa using (List.mem_filter.mp hch).2
  have hdescribe : ∀ v, b.describeAt i v = c.describe v := by
    intro v
    simp [describeAt, hc]
  refine ⟨c', hc', hchained, ?_, ?_, ?_, ?_⟩
  · rw [hown]
    exact hsuffix.map _
  · rw [hown, List.isChain_map]
    refine (hchained.isChain.suffix hsuffix).imp_of_mem_imp ?_
    intro ch ds hch hds hlink
    have hch' := hcell ch (hsuffix.subset hch)
    have hds' := hcell ds (hsuffix.subset hds)
    simp only [recordOf, hch', hds', hlink]
  · rw [h.lastFor?_eq, hown, List.getLast?_eq_none_iff, List.map_eq_nil_iff]
    unfold changesOf
    simp
  · intro r hr
    rw [h.lastFor?_eq, hown, List.getLast?_map] at hr
    obtain ⟨ch, hlast, rfl⟩ := Option.map_eq_some_iff.mp hr
    -- the last change that is kept of the cell is the last one that it has had
    obtain ⟨earlier, hearlier⟩ := hsuffix
    have hlast' : (changesOf i changes).getLast? = some ch := by
      rw [← hearlier, List.getLast?_append, hlast]
      rfl
    have hi := hcell ch (List.mem_of_getLast? hlast')
    show b.describeAt ch.cell ch.new = c.describe c'.value
    rw [hi, hdescribe, hchained.new_of_getLast? hlast']

/-- **The history keeps the tail of all changes, and with it the tail of every cell's.** -/
theorem Evolves.keepsTail (he : Evolves b changes b') {k : Nat}
    (hhistory : b.history = some (.empty k)) (hids : (b.cells.map Cell.id).Nodup)
    (hrecorded : ∀ c ∈ b.cells, c.recorded = true) :
    ∃ h, b'.history = some h ∧ KeepsTail k b b' changes h := by
  have hh := he.history hrecorded
  rw [hhistory] at hh
  refine ⟨_, hh, ?_⟩
  have hrecords := History.records_appendAll_empty k (changes.map b.recordOf)
  have hkept : ((changes.map b.recordOf).rtake (max k 1)) =
      (changes.rtake (max k 1)).map b.recordOf := by
    unfold List.rtake
    rw [List.map_drop, List.length_map]
  refine ⟨hrecords, fun ch hch => (he.mem hch).1, ?_⟩
  intro i c hc
  exact he.tells hids (rtake_suffix _ _) (hrecords.trans hkept) hc

/-- **However calls on cells that share a history follow one another, the history keeps the tail of
the accepted changes, in their order, and of every cell's.** A call that is rejected does nothing,
and one that is accepted changes its cell before anything else happens. -/
theorem keepsTail_run {k : Nat} (hhistory : b.history = some (.empty k))
    (hids : (b.cells.map Cell.id).Nodup) (hrecorded : ∀ c ∈ b.cells, c.recorded = true)
    (xs : List (Timestamp × Command α)) :
    ∃ h, (run xs b).1.history = some h ∧ KeepsTail k b (run xs b).1 (run xs b).2 h ∧
      ∀ i c, (run xs b).1.cells[i]? = some c → Judges (run xs b).1 i c := by
  obtain ⟨h, hh, htail⟩ := (evolves_run xs b).keepsTail hhistory hids hrecorded
  exact ⟨h, hh, htail, fun i c hc => judges hc⟩

end Tail

/-- Two cells that share a history with room for one record. Whenever the first one changes, a
listener counts the second one up. -/
def twoCells : Board Nat where
  cells := [
    { id := "wifi", describe := toString, value := 0, registrations := [⟨0, 0⟩] },
    { id := "broker", describe := toString, value := 0 }]
  history := some (.empty 1)
  listeners := [{ name := "follow", act := some (.update 1 fun n => .becomes (n + 1)) }]
  nextToken := 1

/-- The second of these calls is rejected. -/
def threeCalls : List (Timestamp × Command Nat) :=
  [(.epoch, .set 0 1), (.epoch, .set 0 1), (.epoch, .update 0 fun n => .becomes (n + 1))]

/-- The listener's changes push the records of the first cell out. -/
theorem keepsTail_run_twoCells :
    ∃ h, (run threeCalls twoCells).1.history = some h ∧
      KeepsTail 1 twoCells (run threeCalls twoCells).1 (run threeCalls twoCells).2 h ∧
      h.lastFor? "wifi" = none := by
  obtain ⟨h, hh, htail, -⟩ :=
    keepsTail_run (k := 1) (b := twoCells) rfl (by decide) (by decide) threeCalls
  refine ⟨h, hh, htail, ?_⟩
  obtain ⟨c, -, htells⟩ := htail.cells 0 _ rfl
  refine htells.forgotten.mpr ?_
  have hcells : ((run threeCalls twoCells).2.rtake (max 1 1)).map Change.cell = [1] := by
    decide +kernel
  intro ch hch
  have hmem := List.mem_map_of_mem (f := Change.cell) hch
  rw [hcells, List.mem_singleton] at hmem
  omega

end Board

end LinkWarden

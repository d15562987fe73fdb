import LinkWarden.Proofs.Link.Table
import LinkWarden.Proofs.Observe.Story

/-!
# The cell of a link

The state of a link is a watched value. An event is an update of it that proposes what the table
says, and listeners are told of the transitions.

* `accepted?_proposal` says that the cell accepts what the table has an entry for.
* `Follows.events` says that a cell that gets events goes through the states of the table, whoever
  listens and whatever happens to other cells meanwhile.
-/

namespace LinkWarden

open LinkState Happening

/-- What the table makes of a state. -/
def Event.proposal (e : Event) (s : LinkState) : Proposal LinkState :=
  match s.next e with
  | none => .keep
  | some m => .becomes m.to

/-- A link cell accepts an event if the table has an entry for it, since no entry stays in its
state. -/
theorem Cell.accepted?_proposal (c : Cell LinkState) (e : Event) :
    c.accepted? (e.proposal c.value) = (c.value.next e).map Move.to := by
  unfold Event.proposal
  cases h : c.value.next e with
  | none => rfl
  | some m => simp [Cell.accepted?, next_to_ne h]

namespace Board

/-- The commands that bring events to the cell at a place, each at its time. -/
def eventCommands (i : Nat) (xs : List (Timestamp × Event)) :
    List (Timestamp × Command LinkState) :=
  xs.map fun x => (x.1, .update i x.2.proposal)

/-- The changes of a cell keep their order when lists of changes are joined. -/
theorem changesOf_append (i : Nat) (cs ds : List (Change LinkState)) :
    changesOf i (cs ++ ds) = changesOf i cs ++ changesOf i ds := by
  unfold changesOf
  exact List.filter_append _ _

/-- One event. -/
theorem Follows.update {i : Nat} {h : List Happening} {b : Board LinkState} (hb : Follows i h b)
    {c : Cell LinkState} (hc : b.cells[i]? = some c) (e : Event) :
    ∃ c', (b.execute (.update i e.proposal)).board.cells[i]? = some c' ∧
      c'.value = c.value.after e ∧
      (changesOf i (b.execute (.update i e.proposal)).changes).map (fun ch => (ch.old, ch.new)) =
        moves c.value [e] := by
  have hnext : Command.next? i (.update i e.proposal) = some e.proposal := if_pos rfl
  have haccepted := c.accepted?_proposal e
  cases he : c.value.next e with
  | none =>
    have hmoves : moves c.value [e] = [] := moves_of_none he
    rw [he] at haccepted
    obtain ⟨answer, hexecute⟩ := execute_of_rejected hc hnext haccepted
    rw [hexecute, hmoves]
    exact ⟨c, hc, (after_of_none he).symm, rfl⟩
  | some m =>
    have hmoves : moves c.value [e] = [(c.value, m.to)] := moves_of_some he
    rw [he] at haccepted
    obtain ⟨hspared, later, hchanges, hlater⟩ := hb.accepts hc hnext haccepted
    refine ⟨c.change b.isAlive m.to, ?_, (after_of_some he).symm, ?_⟩
    · rw [hspared.cell, cells_change hc,
        List.getElem?_set_self (List.getElem?_eq_some_iff.mp hc).1]
    · have hothers : changesOf i later = [] :=
        List.filter_eq_nil_iff.mpr fun d hd => by simpa using hlater d hd
      have hfirst : changesOf i [b.changeOf i c m.to] = [b.changeOf i c m.to] := by
        simp [changesOf, changeOf]
      rw [hchanges, hmoves, ← List.singleton_append, changesOf_append, hothers, hfirst]
      rfl

/-- **A cell that gets events goes through the same states**, whoever is told of that. -/
theorem Follows.events {i : Nat} {h : List Happening} {b : Board LinkState} (hb : Follows i h b)
    {c : Cell LinkState} (hc : b.cells[i]? = some c) (xs : List (Timestamp × Event)) :
    ∃ c', (Board.run (eventCommands i xs) b).1.cells[i]? = some c' ∧
      c'.value = (xs.map Prod.snd).foldl after c.value ∧
      (changesOf i (Board.run (eventCommands i xs) b).2).map (fun ch => (ch.old, ch.new)) =
        moves c.value (xs.map Prod.snd) := by
  induction xs generalizing h b c with
  | nil => exact ⟨c, hc, rfl, rfl⟩
  | cons x xs ih =>
    have hclock := hb.setClock x.1
    have hnext : Command.next? i (.update i x.2.proposal) = some x.2.proposal := if_pos rfl
    obtain ⟨c', hc', hvalue, hmoves⟩ := hclock.update hc x.2
    obtain ⟨c'', hc'', hvalue', hmoves'⟩ :=
      ih (hclock.call (List.getElem?_eq_some_iff.mp hc).1 hnext) hc'
    refine ⟨c'', hc'', ?_, ?_⟩
    · rw [hvalue', hvalue]
      rfl
    · have hcons : moves c.value ((x :: xs).map Prod.snd) =
          moves c.value [x.2] ++ moves (c.value.after x.2) (xs.map Prod.snd) :=
        moves_append c.value [x.2] (xs.map Prod.snd)
      rw [hcons, ← hmoves, ← hvalue, ← hmoves', ← List.map_append, ← changesOf_append]
      rfl

end Board

end LinkWarden

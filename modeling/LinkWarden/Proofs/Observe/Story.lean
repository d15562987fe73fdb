import LinkWarden.Proofs.Observe.Registrations
import LinkWarden.Proofs.Observe.Sparing

/-!
# Boards that follow a story

What a cell holds is a matter of its story alone: of the registrations, of the listeners that have
been dropped and of the changes that it has accepted, in their order. This is so as long as no
listener acts on the cell or drops another one.

* `Populated` says this of the listeners, and `Follows` of the listeners and the cell.
* `Follows.execute` says that every command keeps a board to the story, and `Follows.run` says so of
  a sequence of commands.
-/

namespace LinkWarden

open Happening

variable {α : Type}

/-- A command after which no listener acts on the cell at a place or drops another one. -/
def Command.IsFair (i : Nat) : Command α → Prop
  | .listen _ _ act => ∀ command, act = some command → command.Spares i
  | _ => True

namespace Board

/-- The listeners are those of a story: the ones that have not been dropped are owned. None of them
is running, and all spare the cell at a place. -/
structure Populated (i : Nat) (h : List Happening) (b : Board α) : Prop where
  owned : ∀ (n : Nat) (l : Listener α), b.listeners[n]? = some l →
    l.owned = !decide (.dropped n ∈ h)
  dropped : ∀ n, .dropped n ∈ h → n < b.listeners.length
  resting : ∀ l ∈ b.listeners, l.running = 0
  sparing : b.AllSpare i
  named : b.IsNamed

/-- The board is as it should be after a story of the cell at a place. -/
structure Follows (i : Nat) (h : List Happening) (b : Board α) : Prop
    extends Populated i h b where
  registrations : ∀ c, b.cells[i]? = some c → c.registrations = kept h
  /-- Numbers of listeners and tokens are those that have been given. -/
  listeners : ∀ r ∈ roll h, r.listener < b.listeners.length
  tokens : ∀ r ∈ roll h, r.token < b.nextToken
  unregistered : ∀ t, .unregistered t ∈ h → t < b.nextToken
  increasing : (roll h).Pairwise fun r s => r.token < s.token

namespace Populated

variable {i : Nat} {h h' : List Happening} {b b' : Board α}

/-- Nobody has been dropped since. -/
theorem congr (hb : Populated i h b) (hlisteners : b'.listeners = b.listeners)
    (hdropped : ∀ n, .dropped n ∈ h' ↔ .dropped n ∈ h) : Populated i h' b' where
  owned := by simpa only [hlisteners, hdropped] using hb.owned
  dropped := by simpa only [hlisteners, hdropped] using hb.dropped
  resting := by simpa only [hlisteners] using hb.resting
  sparing := by simpa only [AllSpare, hlisteners] using hb.sparing
  named := by simpa only [IsNamed, hlisteners] using hb.named

/-- New listeners are owned and rest, as those of the story do that nobody has dropped. -/
theorem of_spared (hb : Populated i h b) (hs : Spared i b b') : Populated i h b' := by
  obtain ⟨new, hlisteners, hnew⟩ := hs.listeners
  refine ⟨?_, ?_, ?_, hs.allSpare hb.sparing, hs.named hb.named⟩
  · intro n l hl
    rw [hlisteners, List.getElem?_append] at hl
    split at hl
    · exact hb.owned n l hl
    · next hn =>
      have hdropped : .dropped n ∉ h := fun hmem => hn (hb.dropped n hmem)
      simp [(hnew l (List.mem_of_getElem? hl)).1, hdropped]
  · exact fun n hn => Nat.lt_of_lt_of_le (hb.dropped n hn) hs.length_le
  · rw [hlisteners]
    intro l hl
    exact (List.mem_append.mp hl).elim (hb.resting l) fun hl => (hnew l hl).2.1

/-- A listener that is dropped has lost its owner. Nothing else is different about it. -/
theorem drop (hb : Populated i h b) {n : Nat} (hn : n < b.listeners.length) :
    Populated i (.dropped n :: h)
      { b with listeners := b.listeners.modify n fun l => { l with owned := false } } := by
  have hlook : ∀ (m : Nat) (k : Listener α),
      (b.listeners.modify n fun l => { l with owned := false })[m]? = some k →
      ∃ l, b.listeners[m]? = some l ∧ k.act = l.act ∧ k.running = l.running ∧
        k.owned = (l.owned && !decide (n = m)) := by
    intro m k hk
    rw [List.getElem?_modify] at hk
    obtain ⟨l, hl, rfl⟩ := Option.map_eq_some_iff.mp hk
    refine ⟨l, hl, ?_⟩
    split <;> simp [*]
  refine ⟨?_, ?_, ?_, ?_, ?_⟩
  · intro m k hk
    obtain ⟨l, hl, -, -, howned⟩ := hlook m k hk
    rw [howned, hb.owned m l hl]
    simp [eq_comm, Bool.and_comm]
  · intro m hm
    rw [List.length_modify]
    rcases List.mem_cons.mp hm with hm | hm
    · cases hm
      exact hn
    · exact hb.dropped m hm
  · intro k hk
    obtain ⟨m, hm⟩ := List.mem_iff_getElem?.mp hk
    obtain ⟨l, hl, -, hrunning, -⟩ := hlook m k hm
    rw [hrunning]
    exact hb.resting l (List.mem_of_getElem? hl)
  · intro k hk
    obtain ⟨m, hm⟩ := List.mem_iff_getElem?.mp hk
    obtain ⟨l, hl, hact, -, -⟩ := hlook m k hm
    unfold Listener.Spares
    rw [hact]
    exact hb.sparing l (List.mem_of_getElem? hl)
  · exact isNamed_modify (f := fun l => { l with owned := false }) (fun _ => rfl)
      (fun _ hfalse => by cases hfalse) hb.named n

end Populated

namespace Follows

variable {i : Nat} {h : List Happening} {b b' : Board α}

/-! ### The present state -/

/-- The listener of a registration is there, and it is owned unless it is dead. -/
theorem getElem? (hb : Follows i h b) {r : Registration} (hr : r ∈ roll h) :
    ∃ l, b.listeners[r.listener]? = some l ∧ l.owned = !isDead h r := by
  have hn := hb.listeners r hr
  exact ⟨_, List.getElem?_eq_getElem hn, hb.owned _ _ (List.getElem?_eq_getElem hn)⟩

/-- As none is running, those that are alive are those that are not dead. -/
theorem isAlive_eq (hb : Follows i h b) {r : Registration} (hr : r ∈ roll h) :
    b.isAlive r.listener = !isDead h r := by
  obtain ⟨l, hl, howned⟩ := hb.getElem? hr
  have hrunning := hb.resting l (List.mem_of_getElem? hl)
  simp [isAlive, hl, Listener.isAlive, howned, hrunning]

/-- What is left of the registrations when those of listeners that are gone have been pruned. -/
theorem filter_isAlive (hb : Follows i h b) {c : Cell α} (hc : b.cells[i]? = some c) :
    (c.registrations.filter fun r => b.isAlive r.listener) = live h := by
  rw [live_eq_filter_kept, hb.registrations c hc]
  exact List.filter_congr fun r hr => hb.isAlive_eq (List.mem_filter.mp hr).1

/-- The next token has not been taken back. -/
theorem isRevoked_nextToken (hb : Follows i h b) (n : Nat) :
    isRevoked h { token := b.nextToken, listener := n } = false :=
  decide_eq_false fun hr => Nat.lt_irrefl _ (hb.unregistered _ hr)

/-! ### What keeps it -/

/-- What has left the cell alone is no part of its story. -/
theorem of_spared (hb : Follows i h b) (hs : Spared i b b') : Follows i h b' where
  toPopulated := hb.toPopulated.of_spared hs
  registrations := by
    rw [hs.cell]
    exact hb.registrations
  listeners := fun r hr => Nat.lt_of_lt_of_le (hb.listeners r hr) hs.length_le
  tokens := fun r hr => Nat.lt_of_lt_of_le (hb.tokens r hr) hs.nextToken
  unregistered := fun t ht => Nat.lt_of_lt_of_le (hb.unregistered t ht) hs.nextToken
  increasing := hb.increasing

/-- A registration with the next token goes on with the story. -/
theorem register (hb : Follows i h b) {n : Nat} (hn : n < b.listeners.length) :
    Follows i (.registered { token := b.nextToken, listener := n } :: h)
      { b with
        cells := b.cells.modify i fun c => c.register { token := b.nextToken, listener := n }
        nextToken := b.nextToken + 1 } where
  toPopulated := hb.toPopulated.congr rfl (by simp)
  registrations := by
    intro c' hc'
    dsimp only at hc'
    rw [List.getElem?_modify_eq] at hc'
    obtain ⟨c, hc, rfl⟩ := Option.map_eq_some_iff.mp hc'
    -- no registration there has been has the new token
    have hroll : { token := b.nextToken, listener := n } ∉ roll h :=
      fun hr => Nat.lt_irrefl _ (hb.tokens _ hr)
    rw [kept_registered hroll (hb.isRevoked_nextToken n), ← hb.registrations c hc]
    rfl
  listeners := by
    intro r hr
    rcases List.mem_append.mp hr with hr | hr
    · exact hb.listeners r hr
    · obtain rfl := List.mem_singleton.mp hr
      exact hn
  tokens := by
    intro r hr
    rcases List.mem_append.mp hr with hr | hr
    · exact Nat.lt_succ_of_lt (hb.tokens r hr)
    · obtain rfl := List.mem_singleton.mp hr
      exact Nat.lt_succ_self _
  unregistered := by
    intro t ht
    exact Nat.lt_succ_of_lt (hb.unregistered t (by simpa using ht))
  increasing := by
    refine List.pairwise_append.mpr ⟨hb.increasing, List.pairwise_singleton _ _, ?_⟩
    intro r hr s hs
    obtain rfl := List.mem_singleton.mp hs
    exact hb.tokens r hr

/-- So does a token that is taken back after it has been given. -/
theorem unlisten (hb : Follows i h b) {t : Nat} (ht : t < b.nextToken) :
    Follows i (.unregistered t :: h) (b.unlisten i t) where
  toPopulated := hb.toPopulated.congr rfl (by simp)
  registrations := by
    intro c' hc'
    unfold Board.unlisten at hc'
    rw [List.getElem?_modify_eq] at hc'
    obtain ⟨c, hc, rfl⟩ := Option.map_eq_some_iff.mp hc'
    rw [kept_unregistered, ← hb.registrations c hc]
    rfl
  listeners := hb.listeners
  tokens := hb.tokens
  unregistered := by
    intro s hs
    rcases List.mem_cons.mp hs with hs | hs
    · cases hs
      exact ht
    · exact hb.unregistered s hs
  increasing := hb.increasing

/-- So does a listener that is dropped. -/
theorem drop (hb : Follows i h b) {n : Nat} (hn : n < b.listeners.length) :
    Follows i (.dropped n :: h)
      { b with listeners := b.listeners.modify n fun l => { l with owned := false } } where
  toPopulated := hb.toPopulated.drop hn
  registrations := by
    rw [kept_dropped]
    exact hb.registrations
  listeners := by
    rw [List.length_modify]
    exact hb.listeners
  tokens := hb.tokens
  unregistered := by simpa using hb.unregistered
  increasing := hb.increasing

/-- So does a change of the cell, which prunes what is dead. -/
theorem change (hb : Follows i h b) {c : Cell α} (hc : b.cells[i]? = some c) (new : α) :
    Follows i (.changed :: h) (b.change i new) where
  toPopulated := hb.toPopulated.congr (listeners_change b i new) (by simp)
  registrations := by
    intro c' hc'
    rw [cells_change hc, List.getElem?_set_self (List.getElem?_eq_some_iff.mp hc).1] at hc'
    cases hc'
    rw [kept_changed, ← live_eq_filter_kept]
    exact hb.filter_isAlive hc
  listeners := by
    rw [listeners_change]
    exact hb.listeners
  tokens := by
    rw [nextToken_change]
    exact hb.tokens
  unregistered := by
    rw [nextToken_change]
    simpa using hb.unregistered
  increasing := hb.increasing

end Follows

/-! ### The beginning -/

/-- A cell without registrations, on a board without listeners. -/
structure IsNew (i : Nat) (b : Board α) : Prop where
  listeners : b.listeners = []
  registrations : ∀ c, b.cells[i]? = some c → c.registrations = []

/-- A new cell follows the story in which nothing has happened. -/
theorem IsNew.follows {i : Nat} {b : Board α} (hb : b.IsNew i) : Follows i [] b where
  owned := by simp [hb.listeners]
  dropped := by simp
  resting := by simp [hb.listeners]
  sparing := by simp [AllSpare, hb.listeners]
  named := by simp [IsNamed, hb.listeners]
  registrations := hb.registrations
  listeners := by simp [roll]
  tokens := by simp [roll]
  unregistered := by simp
  increasing := .nil

/-- Time passes without a part in the story. -/
theorem Follows.setClock {i : Nat} {h : List Happening} {b : Board α} (hb : Follows i h b)
    (time : Timestamp) : Follows i h { b with clock := time } :=
  hb.of_spared (.of_listeners_eq rfl rfl rfl (Nat.le_refl _))

/-! ### Commands -/

/-- A new listener has no token yet. -/
theorem nextToken_own (b : Board α) (name : String) (act : Option (Command α)) :
    (b.own name act).2.nextToken = b.nextToken := by
  unfold own
  split <;> rfl

/-- The listener that is registered has the name, and an owner. -/
theorem getElem?_own (b : Board α) (name : String) (act : Option (Command α)) :
    ∃ l, (b.own name act).2.listeners[(b.own name act).1]? = some l ∧ l.name = name ∧
      l.owned = true := by
  unfold own
  split
  · next howned =>
    obtain ⟨hn, hfound, -⟩ := List.findIdx?_eq_some_iff_getElem.mp howned
    obtain ⟨howner, hname⟩ := (Bool.and_eq_true _ _).mp hfound
    exact ⟨_, List.getElem?_eq_getElem hn, eq_of_beq hname, howner⟩
  · exact ⟨_, List.getElem?_concat_length, rfl, rfl⟩

/-- So its number is one of the board's. -/
theorem lt_length_own (b : Board α) (name : String) (act : Option (Command α)) :
    (b.own name act).1 < (b.own name act).2.listeners.length := by
  obtain ⟨l, hl, -⟩ := getElem?_own b name act
  exact (List.getElem?_eq_some_iff.mp hl).1

variable [BEq α] {i : Nat} {h : List Happening} {b : Board α} {command : Command α}
  {next : α → Proposal α}

/-- Both kinds of calls on a cell are carried out in the same way. -/
theorem execute_of_next? (hi : i < b.cells.length) (hnext : command.next? i = some next) :
    ∃ answer, b.execute command = b.changeTelling
      (executeIn ((List.range b.cells.length).erase i)) i next answer := by
  have hmem : i ∈ List.range b.cells.length := List.mem_range.mpr hi
  unfold execute
  cases command with
  | set j new =>
    obtain ⟨rfl, rfl⟩ : j = i ∧ (fun _ => .becomes new) = next := by
      simpa [Command.next?] using hnext
    rw [executeIn]
    exact ⟨_, dif_pos hmem⟩
  | update j f =>
    obtain ⟨rfl, rfl⟩ : j = i ∧ f = next := by simpa [Command.next?] using hnext
    rw [executeIn]
    exact ⟨_, dif_pos hmem⟩
  | _ => cases hnext

/-- A call on the cell happens to it if it is accepted. -/
theorem happening?_of_next? (hnext : command.next? i = some next) :
    b.happening? i command = (b.newValue? i command).map fun _ => .changed := by
  cases command with
  | set | update => rfl
  | _ => cases hnext

section Calls

variable {c : Cell α} (hc : b.cells[i]? = some c) (hnext : command.next? i = some next)

include hc hnext

/-- What a call makes of the cell is what the cell accepts of it. -/
theorem newValue?_eq : b.newValue? i command = c.accepted? (next c.value) := by
  simp [newValue?, hc, hnext]

/-- A call that does not change the cell does nothing. -/
theorem execute_of_rejected (hrejected : c.accepted? (next c.value) = none) :
    ∃ answer, b.execute command = { answer, board := b } := by
  obtain ⟨answer, hexecute⟩ := execute_of_next? (List.getElem?_eq_some_iff.mp hc).1 hnext
  rw [hexecute]
  unfold changeTelling
  rw [hc]
  dsimp only
  split
  · exact ⟨_, rfl⟩
  · rw [hrejected]
    exact ⟨_, rfl⟩

/-- One that does changes it first, and the listeners that are there then are told. -/
theorem execute_of_accepted {new : α} (haccepted : c.accepted? (next c.value) = some new) :
    ∃ t, t = tellAll (executeIn ((List.range b.cells.length).erase i)) (b.changeOf i c new)
        ((c.registrations.filter fun r => b.isAlive r.listener).map Registration.listener)
        (b.change i new) ∧
      (b.execute command).board = t.board ∧ (b.execute command).notices = t.notices ∧
      (b.execute command).changes = b.changeOf i c new :: t.changes := by
  obtain ⟨answer, hexecute⟩ := execute_of_next? (List.getElem?_eq_some_iff.mp hc).1 hnext
  have hproposal := (Cell.accepted?_eq_some_iff.mp haccepted).1
  rw [hexecute]
  unfold changeTelling
  rw [hc]
  dsimp only
  split
  · next hfails =>
    rw [hproposal] at hfails
    cases hfails
  · rw [haccepted]
    exact ⟨_, rfl, rfl, rfl, rfl⟩

end Calls

/-- The rest of what an accepted call does leaves the cell alone. -/
theorem Follows.accepts (hb : Follows i h b) {c : Cell α} {new : α} (hc : b.cells[i]? = some c)
    (hnext : command.next? i = some next) (haccepted : c.accepted? (next c.value) = some new) :
    Spared i (b.change i new) (b.execute command).board ∧
      ∃ later, (b.execute command).changes = b.changeOf i c new :: later ∧
        ∀ d ∈ later, d.cell ≠ i := by
  obtain ⟨t, rfl, hboard, -, hchanges⟩ := execute_of_accepted hc hnext haccepted
  have hspreads := spreads_tellAll (leaves_executeIn i ((List.range b.cells.length).erase i))
    (b.changeOf i c new)
    ((c.registrations.filter fun r => b.isAlive r.listener).map Registration.listener)
    (hb.change hc new).sparing
  rw [hboard]
  exact ⟨hspreads.board, _, hchanges, hspreads.changes⟩

/-- A call on the cell goes on with the story. -/
theorem Follows.call (hb : Follows i h b) (hi : i < b.cells.length)
    (hnext : command.next? i = some next) :
    Follows i ((b.happening? i command).toList ++ h) (b.execute command).board := by
  have hc := List.getElem?_eq_getElem hi
  rw [happening?_of_next? hnext, newValue?_eq hc hnext]
  cases hnew : b.cells[i].accepted? (next b.cells[i].value) with
  | none =>
    obtain ⟨answer, hexecute⟩ := execute_of_rejected hc hnext hnew
    rw [hexecute]
    exact hb
  | some new =>
    exact (hb.change hc new).of_spared (hb.accepts hc hnext hnew).1

/-- What spares a cell gives it no value. -/
theorem newValue?_of_spares (hspares : command.Spares i) (b : Board α) :
    b.newValue? i command = none := by
  have hnext : command.next? i = none := by cases hspares <;> simp [Command.next?, *]
  simp [newValue?, hnext]

/-- So nothing happens to the registrations of that cell. -/
theorem happening?_of_spares (hspares : command.Spares i) (b : Board α) :
    b.happening? i command = none := by
  have hvalue := newValue?_of_spares hspares b
  cases hspares <;> simp [happening?, *]

/-- What spares the cell leaves the story as it is. -/
theorem Follows.spared (hb : Follows i h b) (hspares : command.Spares i) :
    Follows i ((b.happening? i command).toList ++ h) (b.execute command).board := by
  rw [happening?_of_spares hspares]
  exact hb.of_spared (leaves_executeIn i _ command b hspares hb.sparing).board

/-- **Every command that lets no listener act on the cell keeps to the story.** -/
theorem Follows.execute (hb : Follows i h b) (hi : i < b.cells.length)
    (hfair : command.IsFair i) :
    Follows i ((b.happening? i command).toList ++ h) (b.execute command).board := by
  cases command with
  | set j new =>
    by_cases hj : j = i
    · exact hb.call hi (if_pos hj)
    · exact hb.spared (.set hj)
  | update j next =>
    by_cases hj : j = i
    · exact hb.call hi (if_pos hj)
    · exact hb.spared (.update hj)
  | listen j name act =>
    by_cases hj : j = i
    · subst hj
      have hlisten : happening? b j (.listen j name act) =
          some (.registered { token := b.nextToken, listener := (b.own name act).1 }) :=
        if_pos ⟨rfl, hi⟩
      rw [hlisten, Board.execute, executeIn, if_pos hi, ← nextToken_own b name act]
      exact (hb.of_spared (spared_own name hfair)).register (lt_length_own b name act)
    · exact hb.spared (.listen hj hfair)
  | unlisten j token =>
    by_cases hj : j = i
    · subst hj
      rw [Board.execute, executeIn, List.getElem?_eq_getElem hi]
      by_cases htoken : token < b.nextToken
      · simpa [happening?, hi, htoken] using hb.unlisten htoken
      · simpa [happening?, htoken] using hb
    · exact hb.spared (.unlisten hj)
  | drop name =>
    rw [happening?_drop, Board.execute, executeIn]
    unfold Board.drop
    cases howned : b.owned? name with
    | none => exact hb
    | some n =>
      obtain ⟨hn, -⟩ := List.findIdx?_eq_some_iff_getElem.mp howned
      exact hb.drop hn
  | identify => exact hb.spared .identify
  | describe => exact hb.spared .describe
  | debug => exact hb.spared .debug
  | lastFor => exact hb.spared .lastFor
  | fail => exact hb.spared .fail
  | nothing => exact hb.spared .nothing

/-! ### Sequences of commands -/

/-- No cell comes or goes. -/
theorem Evolves.length_cells {b b' : Board α} {cs : List (Change α)}
    (he : Evolves b cs b') : b'.cells.length = b.cells.length := by
  have hlength := congrArg List.length he.map_face
  rwa [List.length_map, List.length_map] at hlength

/-- The story of calls that follow others goes on with the story of these. -/
theorem story_append (i : Nat) (xs ys : List (Timestamp × Command α)) (b : Board α) :
    story i (xs ++ ys) b = story i ys (run xs b).1 ++ story i xs b := by
  induction xs generalizing b with
  | nil => simp [story, run]
  | cons x xs ih => simp [story, run, ih]

/-- **A cell follows its story through every sequence of fair commands.** -/
theorem Follows.run (hb : Follows i h b) (hi : i < b.cells.length)
    {xs : List (Timestamp × Command α)} (hfair : ∀ x ∈ xs, x.2.IsFair i) :
    Follows i (story i xs b ++ h) (Board.run xs b).1 := by
  induction xs generalizing b h with
  | nil => exact hb
  | cons x xs ih =>
    obtain ⟨hx, hxs⟩ := List.forall_mem_cons.mp hfair
    have hstep := (hb.setClock x.1).execute hi hx
    have hlength := (evolves_executeIn (List.range b.cells.length) x.2
      { b with clock := x.1 }).length_cells
    have hrun := ih hstep (hlength ▸ hi) hxs
    rw [← List.append_assoc] at hrun
    exact hrun

end Board

end LinkWarden

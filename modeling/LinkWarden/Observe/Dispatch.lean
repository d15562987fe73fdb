import LinkWarden.Observe.Board

/-!
# Telling listeners of changes

`Board.execute` carries out a command. An accepted change is recorded first, and then the listeners
that were registered when the value was changed are told, in order of their registrations; one that
is gone by then is passed over. A listener that fails keeps the later ones from being told, but the
change stands.

A cell whose listeners are being told cannot be changed. So every change inside a change is one of
another cell, and a chain of them ends when all cells are busy.
-/

namespace LinkWarden

/-- The answer to a command. -/
inductive Answer (α : Type)
  | yes (b : Bool)
  | /-- The values before and after an update, if it changed the cell. -/
    updated (values : Option (α × α))
  | /-- The cell is in the middle of a change. -/
    busy
  | /-- A function or a listener failed. -/
    failed
  | token (token : Nat)
  | text (s : String)
  | latest (record : Option Record)
  | nothing
  | noSuchCell
  | noSuchToken

/-- What a listener notices. -/
inductive Notice (α : Type)
  | /-- It is told of a change. It sees the values of all cells, and what the latest record says. -/
    told (listener id : String) (old new : α) (values : List α) (logged : Option String)
  | /-- What it did has been answered. -/
    acted (listener : String) (answer : Answer α)

/-- An accepted change. -/
structure Change (α : Type) where
  /-- The place of the cell. -/
  cell : Nat
  id : String
  old : α
  new : α
  /-- When the value was changed. -/
  time : Timestamp

/-- What comes of a command. -/
structure Reaction (α : Type) where
  answer : Answer α
  board : Board α
  /-- What the listeners noticed meanwhile. -/
  notices : List (Notice α) := []
  /-- The changes that were accepted, in this order. -/
  changes : List (Change α) := []

/-- What comes of telling listeners. -/
structure Telling (α : Type) where
  /-- Whether a listener failed. -/
  failed : Bool := false
  board : Board α
  notices : List (Notice α) := []
  /-- The changes that listeners made meanwhile. -/
  changes : List (Change α) := []

namespace Board

variable {α : Type}

/-- The change of a cell at a place to a new value. -/
def changeOf (b : Board α) (cell : Nat) (c : Cell α) (new : α) : Change α :=
  { cell, id := c.id, old := c.value, new, time := b.clock }

/-- What a listener notices first when it is told of a change. -/
def told (b : Board α) (name : String) (c : Change α) : Notice α :=
  .told name c.id c.old c.new b.values ((b.lastFor? c.id).map Record.after)

/-- Tells listeners of a change, one after another, until one of them fails. `act` carries out what a
listener does. -/
def tellAll (act : Command α → Board α → Reaction α) (c : Change α) :
    List Nat → Board α → Telling α
  | [], b => { board := b }
  | n :: ns, b =>
    match b.listeners[n]? with
    | none => tellAll act c ns b
    | some l =>
      if !l.isAlive then tellAll act c ns b
      else
        let told := b.told l.name c
        match l.act with
        | none =>
          let later := tellAll act c ns b
          { later with notices := told :: later.notices }
        | some .fail => { failed := true, board := b, notices := [told] }
        | some command =>
          let done := act command (b.enter n)
          let later := tellAll act c ns (done.board.leave n)
          { later with
            notices := told :: done.notices ++ .acted l.name done.answer :: later.notices
            changes := done.changes ++ later.changes }

/-- Changes a cell, records the change and tells the listeners. `answer` makes the answer from the
values before and after the change, if there was one. -/
def changeTelling [BEq α] (act : Command α → Board α → Reaction α) (cell : Nat)
    (next : α → Proposal α) (answer : Option (α × α) → Answer α) (b : Board α) : Reaction α :=
  match b.cells[cell]? with
  | none => { answer := .noSuchCell, board := b }
  | some c =>
    match next c.value with
    | .fails => { answer := .failed, board := b }
    | proposal =>
      match c.accepted? proposal with
      | none => { answer := answer none, board := b }
      | some new =>
        let change := b.changeOf cell c new
        let listeners := (c.change b.isAlive new).registrations.map Registration.listener
        let telling := tellAll act change listeners (b.change cell new)
        { answer := if telling.failed then .failed else answer (some (c.value, new))
          board := telling.board
          notices := telling.notices
          changes := change :: telling.changes }

/-- What is answered when a cell cannot be changed now. -/
def refusal (b : Board α) (cell : Nat) : Reaction α :=
  { answer := if cell < b.cells.length then .busy else .noSuchCell, board := b }

/-- What is answered to a question about a cell. -/
def about (b : Board α) (cell : Nat) (text : Cell α → String) : Reaction α :=
  match b.cells[cell]? with
  | none => { answer := .noSuchCell, board := b }
  | some c => { answer := .text (text c), board := b }

/-- Carries out a command while only the cells in `free` can be changed. -/
def executeIn [BEq α] (free : List Nat) (command : Command α) (b : Board α) : Reaction α :=
  match command with
  | .set i new =>
    if _ : i ∈ free then
      b.changeTelling (fun c b => executeIn (free.erase i) c b) i (fun _ => .becomes new)
        fun values => .yes values.isSome
    else b.refusal i
  | .update i next =>
    if _ : i ∈ free then
      b.changeTelling (fun c b => executeIn (free.erase i) c b) i next .updated
    else b.refusal i
  | .listen i name act =>
    if i < b.cells.length then
      let (token, b) := b.listen i name act
      { answer := .token token, board := b }
    else { answer := .noSuchCell, board := b }
  | .unlisten i token =>
    match b.cells[i]? with
    | none => { answer := .noSuchCell, board := b }
    | some c =>
      if token < b.nextToken then
        { answer := .yes (c.isRegistered token), board := b.unlisten i token }
      else { answer := .noSuchToken, board := b }
  | .drop name => { answer := .yes (b.owned? name).isSome, board := b.drop name }
  | .identify i => b.about i Cell.id
  | .describe i v => b.about i fun c => c.describe v
  | .debug i => b.about i Cell.debugText
  | .lastFor id => { answer := .latest (b.lastFor? id), board := b }
  | .fail => { answer := .failed, board := b }
  | .nothing => { answer := .nothing, board := b }
termination_by free.length
decreasing_by
  all_goals
    have h : i ∈ free := by assumption
    have := List.length_erase_of_mem h
    have := List.length_pos_of_mem h
    omega

/-- Carries out a command. -/
def execute [BEq α] (command : Command α) (b : Board α) : Reaction α :=
  executeIn (List.range b.cells.length) command b

end Board

end LinkWarden

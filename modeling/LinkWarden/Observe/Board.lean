import LinkWarden.Observe.Cell
import LinkWarden.Observe.History

/-!
# Cells that share a history

A `Board` holds cells, the history that they share, and the listeners registered with them. A
listener is owned under a name; without its owner it lives on only until the calls on it that have
begun are over.

Commands change cells and registrations. A listener may carry one out each time it is told of a
change.
-/

namespace LinkWarden

/-- What can be asked of a board. Cells are given by their places. -/
inductive Command (α : Type)
  | set (cell : Nat) (value : α)
  | update (cell : Nat) (next : α → Proposal α)
  | /-- Registers the listener with this name. If there is none it is created, and it acts so. -/
    listen (cell : Nat) (name : String) (act : Option (Command α))
  | unlisten (cell : Nat) (token : Nat)
  | /-- Drops the owner of a listener. -/
    drop (name : String)
  | identify (cell : Nat)
  | describe (cell : Nat) (value : α)
  | debug (cell : Nat)
  | /-- Asks for the latest record of a component. -/
    lastFor (id : String)
  | /-- Fails. -/
    fail
  | nothing

/-- One who wants to know of changes. -/
structure Listener (α : Type) where
  name : String
  /-- What the listener does when it is told of a change. -/
  act : Option (Command α) := none
  /-- Whether it has an owner. -/
  owned : Bool := true
  /-- How many calls on it have begun and are not over. -/
  running : Nat := 0

/-- A listener lives while it has an owner or is running. -/
def Listener.isAlive {α : Type} (l : Listener α) : Bool := l.owned || 0 < l.running

/-- Cells, their history and their listeners. -/
structure Board (α : Type) where
  cells : List (Cell α)
  /-- The history that the cells share, if there is one. -/
  history : Option History := none
  /-- The time that records get. -/
  clock : Timestamp := .epoch
  /-- Every listener there has been, by its number. -/
  listeners : List (Listener α) := []
  /-- The token of the next registration. -/
  nextToken : Nat := 0

namespace Board

variable {α : Type}

/-! ### Listeners -/

/-- Whether the listener with this number is alive. -/
def isAlive (b : Board α) (listener : Nat) : Bool := b.listeners[listener]?.any Listener.isAlive

/-- The number of the listener that is owned under a name. -/
def owned? (b : Board α) (name : String) : Option Nat :=
  b.listeners.findIdx? fun l => l.owned && l.name == name

/-- The number of live registrations of each cell. -/
def listenerCounts (b : Board α) : List Nat := b.cells.map fun c => c.listenerCount b.isAlive

/-- A call on a listener begins. -/
def enter (b : Board α) (listener : Nat) : Board α :=
  { b with listeners := b.listeners.modify listener fun l => { l with running := l.running + 1 } }

/-- A call on a listener is over. -/
def leave (b : Board α) (listener : Nat) : Board α :=
  { b with listeners := b.listeners.modify listener fun l => { l with running := l.running - 1 } }

/-- The number of the listener that is owned under a name, created if there is none. -/
def own (b : Board α) (name : String) (act : Option (Command α)) : Nat × Board α :=
  match b.owned? name with
  | some n => (n, b)
  | none => (b.listeners.length, { b with listeners := b.listeners ++ [{ name, act }] })

/-- Registers the listener that is owned under a name, and gives the token of the registration. -/
def listen (b : Board α) (cell : Nat) (name : String) (act : Option (Command α)) : Nat × Board α :=
  let (listener, b) := b.own name act
  let token := b.nextToken
  (token,
    { b with
      cells := b.cells.modify cell fun c => c.register { token, listener }
      nextToken := token + 1 })

/-- Removes the registration with a token from a cell. -/
def unlisten (b : Board α) (cell token : Nat) : Board α :=
  { b with cells := b.cells.modify cell fun c => c.unregister token }

/-- Drops the owner of the listener with a name. -/
def drop (b : Board α) (name : String) : Board α :=
  match b.owned? name with
  | some n => { b with listeners := b.listeners.modify n fun l => { l with owned := false } }
  | none => b

/-! ### Values -/

/-- The values of all cells. -/
def values (b : Board α) : List α := b.cells.map Cell.value

/-- The latest record of a component. -/
def lastFor? (b : Board α) (id : String) : Option Record := b.history.bind fun h => h.lastFor? id

/-- Adds a record to the history, if there is one. -/
def record (b : Board α) (r : Record) : Board α :=
  { b with history := b.history.map fun h => (h.append r).1 }

/-- Gives a cell a new value and records the change, if the cell asks for that. -/
def change (b : Board α) (cell : Nat) (new : α) : Board α :=
  match b.cells[cell]? with
  | none => b
  | some c =>
    let b := { b with cells := b.cells.set cell (c.change b.isAlive new) }
    if c.recorded then
      b.record {
        component := c.id
        before := c.describe c.value
        after := c.describe new
        time := b.clock }
    else b

end Board

end LinkWarden

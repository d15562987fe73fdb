import LinkWarden.Observe.History
import LinkWarden.Status.Sink
import LinkWarden.Supervisor.Basic

/-!
# What a supervisor's deeds do around it

The history gets a record of every accepted transition, the status sink sets indicators, and lines
go to the log. `Surroundings.perform` turns a deed into `Trace`s, which are what can be seen from
outside.
-/

namespace LinkWarden

/-- Something that can be seen from outside. -/
inductive Trace
  | line (actor : Actor) (line : LogLine)
  | indicator (component : String) (effect : Effect)
  | restart
  deriving DecidableEq, Repr

/-- What listens to supervisors. -/
structure Surroundings where
  /-- The history of transitions, if one is kept. -/
  history : Option History := none
  /-- The indicators to set on transitions, if there are any. -/
  sink : Option StatusSink := none
  /-- The time that records get. -/
  clock : Timestamp := .epoch

namespace Surroundings

/-- Sets an indicator. -/
def indicate (actor : Actor) (component : String) (e : Effect) : List Trace :=
  [.line actor (indicatorLine component e), .indicator component e]

/-- Adds a record of a transition. -/
def record (w : Surroundings) (actor : Actor) (id : String) (before after : LinkState) :
    Surroundings × List Trace :=
  match w.history with
  | none => (w, [])
  | some h =>
    let (h, line) := h.append
      { component := id, before := before.name, after := after.name, time := w.clock }
    ({ w with history := some h }, [.line actor line])

/-- Tells the status sink of a transition. -/
def notify (w : Surroundings) (actor : Actor) (id : String) (after : LinkState) : List Trace :=
  match w.sink.bind fun s => s.effect? id after with
  | none => []
  | some e => .line actor (StatusSink.noticeLine id e) :: indicate actor id e

/-- What a deed of the supervisor with this id does. -/
def perform (id : String) (w : Surroundings) (a : Act) : Surroundings × List Trace :=
  match a.deed with
  | .moves before after =>
    let (w, recorded) := w.record a.actor id before after
    (w, recorded ++ w.notify a.actor id after)
  | .alerts alert => (w, indicate a.actor alert.component alert.effect)
  | .restarts => (w, [.restart])
  | .logs line => (w, [.line a.actor line])
  | .calls _ => (w, [])
  | .charges _ => (w, [])

/-- What a sequence of deeds does. -/
def performAll (id : String) : Surroundings → List Act → Surroundings × List Trace
  | w, [] => (w, [])
  | w, a :: acts =>
    let (w, here) := w.perform id a
    let (w, later) := performAll id w acts
    (w, here ++ later)

end Surroundings

/-- The name of the thread that an actor runs on. -/
def Actor.thread (id : String) : Actor → String
  | .caller => "main"
  | .reconnector => id ++ "-reconnect"
  | .prober => id ++ "-health"

end LinkWarden

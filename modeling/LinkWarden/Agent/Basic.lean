import LinkWarden.Simulation.SupervisedLink
import LinkWarden.Supervisor.Surroundings

/-!
# The agent

The agent supervises two simulated links: a wireless network, and a session at a message broker that
runs over it. Attempts to open a session fail while the network is down. When the network is lost,
the session is ended as well.
-/

namespace LinkWarden

/-- One of the two links. -/
inductive Side
  | wifi
  | broker
  deriving DecidableEq, Repr

/-- The id of the supervisor. -/
def Side.id : Side → String
  | .wifi => "WifiLink"
  | .broker => "BrokerSession"

/-- How the settings set up a supervisor. -/
def Settings.supervision (s : Settings) : Supervision :=
  let base : Supervision := match s.reconnect.strategy with
    | .escalate => .escalating (Escalation.withAlert {} .usual)
    | .persist => .persistent
  { base with retry := s.reconnect.backoff.policy, health := s.health.policy }

/-- Two supervised links, and what listens to their supervisors. -/
structure Agent where
  wifi : SupervisedLink
  broker : SupervisedLink
  surroundings : Surroundings
  clock : TaskClock := {}

/-- Something that can be seen of the agent, and on which side. -/
structure Sighting where
  side : Side
  trace : Trace
  deriving DecidableEq, Repr

namespace Agent

/-- The agent that settings describe. -/
def ofSettings (s : Settings) : Agent :=
  { wifi := {
      supervisor := .make Side.wifi.id s.supervision
      link := { profile := .wifi s.wifi, behavior := s.simulation.wifi } }
    broker := {
      supervisor := .make Side.broker.id s.supervision
      link := { profile := .broker s.broker, behavior := s.simulation.broker } }
    surroundings := {
      history := some (.empty s.diagnostics.logCapacity.toNat)
      sink := some s.status.sink } }

/-- The link on a side. -/
def on (a : Agent) : Side → SupervisedLink
  | .wifi => a.wifi
  | .broker => a.broker

/-- The agent with another link on a side. -/
def put (a : Agent) (s : SupervisedLink) : Side → Agent
  | .wifi => { a with wifi := s }
  | .broker => { a with broker := s }

/-- Whether the link that a link runs over is down. -/
def carrierIsDown (a : Agent) : Side → Bool
  | .wifi => false
  | .broker => !a.wifi.link.up

/-- Lines of the simulation, written by someone on a side. -/
def sightings (side : Side) (actor : Actor) (lines : List LogLine) : List Sighting :=
  lines.map fun l => ⟨side, .line actor l⟩

/-! ### What is done about the deeds of a supervisor -/

/-- Takes over a link from a response, and asks for its tasks. -/
def accept (a : Agent) (side : Side) (r : LinkResponse) : Agent :=
  let (s, clock) := (a.on side).accept a.clock r
  { a.put s side with clock }

/-- Calls the link on a side. -/
def call (a : Agent) (side : Side) (c : TransportCall) : Agent × LinkResponse :=
  let r := (a.on side).link.call (a.carrierIsDown side) c
  (a.accept side r, r)

/-- The network is lost: the session that runs over it is ended. The one who has noticed the loss
does so. -/
def follow (a : Agent) (actor : Actor) : Agent × List Sighting :=
  if a.broker.supervisor.isConnected then
    let (a, r) := a.call .broker .disconnect
    let warning := match r.result with
      | .ok () => []
      | .error e => [.warn ("Failed to drop broker session: " ++ e.message)]
    (a, sightings .wifi actor (r.lines ++ warning))
  else (a, [])

/-- Whether a deed on a side is the loss of the network. -/
def isNetworkLoss : Side → Deed → Bool
  | .wifi, .moves _ .disconnected => true
  | _, _ => false

/-- What a deed on a side leads to. -/
def perform (side : Side) (a : Agent) (act : Act) : Agent × List Sighting :=
  match act.deed with
  | .calls c =>
    let (a, r) := a.call side c
    (a, sightings side act.actor r.lines)
  | deed =>
    let (surroundings, traces) := a.surroundings.perform side.id act
    let a := { a with surroundings }
    let (a, following) := if isNetworkLoss side deed then a.follow act.actor else (a, [])
    (a, traces.map (Sighting.mk side) ++ following)

/-- What a sequence of deeds leads to. -/
def performAll (side : Side) : Agent → List Act → Agent × List Sighting
  | a, [] => (a, [])
  | a, act :: acts =>
    let (a, here) := perform side a act
    let (a, later) := performAll side a acts
    (a, here ++ later)

/-- A step of the supervisor on a side. -/
def supervise (a : Agent) (side : Side) (step : Supervisor × List Act) : Agent × List Sighting :=
  performAll side (a.put { a.on side with supervisor := step.1 } side) step.2

/-! ### Steps -/

/-- A pending task on a side is carried out. -/
def fire (a : Agent) (side : Side) (p : PendingTask) : Agent × List Sighting :=
  let s := (a.on side).take p
  let r := s.link.fire p.task
  let s := { s with link := r.link }
  let a := a.put s side
  let (a, handled) := match r.event with
    | none => (a, [])
    | some e => a.supervise side (s.handle e)
  let (s, clock) := (a.on side).ask a.clock r.tasks
  ({ a.put s side with clock }, sightings side .caller r.lines ++ handled)

/-- The supervisor on a side is initialised. -/
def init (a : Agent) (side : Side) : Agent × Except LinkError Unit × List Sighting :=
  let (t, acts, result) := (a.on side).init
  let (a, seen) := a.supervise side (t, acts)
  (a, result, seen)

/-- The reconnector on a side makes the attempt that it has charged. -/
def attempt (a : Agent) (side : Side) : Agent × List Sighting :=
  a.supervise side (a.on side).attempt

/-- The prober on a side probes. -/
def check (a : Agent) (side : Side) : Agent × List Sighting := a.supervise side (a.on side).check

/-- The supervisor on a side is stopped. -/
def stop (a : Agent) (side : Side) : Agent × List Sighting := a.supervise side (a.on side).stop

/-- The reconnector on a side goes on until it rests. A wait for which `isOver` holds is over. -/
def settle (isOver : Duration → Bool) (a : Agent) (side : Side) : Agent × List Sighting :=
  a.supervise side ((a.on side).supervisor.settle isOver)

/-! ### Time -/

/-- The task that is due next, if one is due now. -/
def due? (a : Agent) : Option (Side × PendingTask) :=
  match a.wifi.due? a.clock.now, a.broker.due? a.clock.now with
  | none, none => none
  | some p, none => some (.wifi, p)
  | none, some q => some (.broker, q)
  | some p, some q => if q.isBefore p then some (.broker, q) else some (.wifi, p)

/-- Carries out tasks that are due, so many at most. -/
def runDue : Nat → Agent → Agent × List Sighting
  | 0, a => (a, [])
  | fuel + 1, a =>
    match a.due? with
    | none => (a, [])
    | some (side, p) =>
      let (a, here) := a.fire side p
      let (a, later) := runDue fuel a
      (a, here ++ later)

/-- A bound on the tasks that can be due now, with those that they ask for at once: one that starts
a link leads to an attempt, a failed attempt to the loss of a link, and the loss of the network to
the end of a session. -/
def dueBound (a : Agent) : Nat := 4 * (a.wifi.pending.length + a.broker.pending.length) + 4

/-- Carries out all tasks that are due. -/
def runAllDue (a : Agent) : Agent × List Sighting := runDue a.dueBound a

end Agent

end LinkWarden

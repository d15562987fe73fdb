import LinkWarden.Agent.Basic

/-!
# The agent on its own

An `Autopilot` runs the agent by the clock: tasks of the links are carried out when they are due, a
reconnector makes every attempt that it charges and waits as long as the backoff says, and a prober
probes at its interval. `step` does all that is to be done at one time, and `next?` is the time when
there is something to do again. So one can run it in real time, by sleeping until then, or without
sleeping.
-/

namespace LinkWarden

/-- When the workers of a supervisor have something to do. -/
structure WorkerTimes where
  /-- When the wait of the reconnector is over. -/
  waitEnds : Nat := 0
  /-- When the prober probes next, if it runs. -/
  probe : Option Nat := none
  deriving DecidableEq, Repr

/-- The agent with the times of its workers. -/
structure Autopilot where
  agent : Agent
  wifi : WorkerTimes := {}
  broker : WorkerTimes := {}

namespace Autopilot

/-- The times of the workers on a side. -/
def times (p : Autopilot) : Side → WorkerTimes
  | .wifi => p.wifi
  | .broker => p.broker

/-- The same with other times on a side. -/
def putTimes (p : Autopilot) (t : WorkerTimes) : Side → Autopilot
  | .wifi => { p with wifi := t }
  | .broker => { p with broker := t }

/-- The whole milliseconds that a wait takes, a part of one included. -/
def waitMillis (d : Duration) : Nat := (d.nanoseconds + 999999) / 1000000

/-! ### The work of one moment -/

/-- Carries out the tasks that are due. -/
def runTasks (p : Autopilot) : Autopilot × List Sighting :=
  let (agent, seen) := p.agent.runAllDue
  ({ p with agent }, seen)

/-- The reconnector on a side goes on as far as it can: its wait ends, or it charges an attempt and
makes it. -/
def reconnect (p : Autopilot) (side : Side) : Autopilot × List Sighting :=
  let now := p.agent.clock.now
  let isOver := decide ((p.times side).waitEnds ≤ now)
  let (agent, seen) := p.agent.settle (fun _ => isOver) side
  match (agent.on side).supervisor.reconnector with
  | .attempting _ wait =>
    let (agent, made) := agent.attempt side
    ({ p with agent }.putTimes { p.times side with waitEnds := now + waitMillis wait } side,
      seen ++ made)
  | _ => ({ p with agent }, seen)

/-- The prober on a side probes, if it is time to. -/
def probe (p : Autopilot) (side : Side) : Autopilot × List Sighting :=
  let now := p.agent.clock.now
  let s := (p.agent.on side).supervisor
  match (p.times side).probe, s.supervision.health.interval with
  | some due, some interval =>
    if due ≤ now then
      let (agent, seen) := p.agent.check side
      ({ p with agent }.putTimes
        { p.times side with probe := some (now + max 1 (waitMillis interval)) } side, seen)
    else (p, [])
  | _, _ => (p, [])

/-- Does one kind of work after another. -/
def doAll : List (Autopilot → Autopilot × List Sighting) → Autopilot → Autopilot × List Sighting
  | [], p => (p, [])
  | work :: works, p =>
    let (p, here) := work p
    let (p, later) := doAll works p
    (p, here ++ later)

/-- Does all that is to be done at a time. -/
def step (now : Nat) (p : Autopilot) : Autopilot × List Sighting :=
  doAll
    [runTasks, (reconnect · .wifi), (reconnect · .broker), (probe · .wifi), (probe · .broker)]
    { p with agent.clock.now := now }

/-! ### From one moment to the next -/

/-- The times on a side when there is something to do. -/
def dueTimes (p : Autopilot) (side : Side) : List Nat :=
  let s := p.agent.on side
  let times := p.times side
  s.pending.map PendingTask.due ++
    (match s.supervisor.reconnector with
      | .awaiting _ _ => [times.waitEnds]
      | _ => []) ++
    times.probe.toList

/-- The next time when there is something to do, if there ever is. -/
def next? (p : Autopilot) : Option Nat :=
  (p.dueTimes .wifi ++ p.dueTimes .broker).min?.map fun t => max p.agent.clock.now t

/-- Whether the device has been restarted. -/
def isRestart (seen : List Sighting) : Bool := seen.any fun s => s.trace == .restart

/-- Initialises a supervisor and lets its prober begin. -/
def launch (p : Autopilot) (side : Side) : Autopilot × Except LinkError Unit × List Sighting :=
  let (agent, result, seen) := p.agent.init side
  let s := (agent.on side).supervisor
  let probe := if s.probing then s.supervision.health.interval.map waitMillis else none
  ({ p with agent }.putTimes { p.times side with probe } side, result, seen)

/-- The agent that settings describe, with both supervisors initialised, the network first. -/
def start (s : Settings) : Autopilot × Except LinkError Unit × List Sighting :=
  let (p, result, first) := launch { agent := .ofSettings s } .wifi
  match result with
  | .error e => (p, .error e, first)
  | .ok () =>
    let (p, result, second) := p.launch .broker
    (p, result, first ++ second)

/-- Runs without sleeping, so many steps at most, and says whether the device is restarted. -/
def restarts : Nat → Autopilot → Bool
  | 0, _ => false
  | fuel + 1, p =>
    match p.next? with
    | none => false
    | some now =>
      let (p, seen) := p.step now
      isRestart seen || restarts fuel p

end Autopilot

end LinkWarden

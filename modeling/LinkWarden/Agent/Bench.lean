import LinkWarden.Agent.Basic

/-!
# The agent on a bench

On the bench the agent is driven by hand: time passes only by command, an attempt of a reconnector
is held until a command lets it go, and the links can be called directly. After each command, and
after each millisecond of a longer time, all tasks that are due are carried out and then the
reconnectors go on until they rest. Waits are short or long, as on the rig of a single supervisor.
-/

namespace LinkWarden

/-- What the agent is told to do. -/
inductive BenchCommand
  | init (side : Side)
  | attempt (side : Side)
  | connect (side : Side)
  | disconnect (side : Side)
  | probe (side : Side)
  | stop (side : Side)
  | /-- Lets so many milliseconds pass. -/
    pass (ms : Nat)
  deriving DecidableEq, Repr

/-- What is answered. -/
inductive BenchAnswer
  | result (r : Except LinkError Unit)
  | released
  | notWaiting
  | probed (found : Option Probe)
  | nothing

namespace Agent

/-- Carries out what is due and lets the reconnectors go on. -/
def rest (a : Agent) : Agent × List Sighting :=
  let (a, fired) := a.runAllDue
  let (a, first) := a.settle isShort .wifi
  let (a, second) := a.settle isShort .broker
  (a, fired ++ first ++ second)

/-- Lets milliseconds pass, one by one. -/
def pass : Nat → Agent → Agent × List Sighting
  | 0, a => (a, [])
  | n + 1, a =>
    let (a, here) := { a with clock.now := a.clock.now + 1 }.rest
    let (a, later) := pass n a
    (a, here ++ later)

/-- Calls the link on a side directly. -/
def callDirectly (a : Agent) (side : Side) (c : TransportCall) :
    BenchAnswer × Agent × List Sighting :=
  let (a, r) := a.call side c
  (.result r.result, a, sightings side .caller r.lines)

/-- Carries out a command, apart from the rest that follows it. -/
def carryOut (a : Agent) : BenchCommand → BenchAnswer × Agent × List Sighting
  | .init side =>
    let (a, result, seen) := a.init side
    (.result result, a, seen)
  | .attempt side =>
    match (a.on side).supervisor.reconnector with
    | .attempting _ _ => (.released, a.attempt side)
    | _ => (.notWaiting, a, [])
  | .connect side => a.callDirectly side .connect
  | .disconnect side => a.callDirectly side .disconnect
  | .probe side => (.probed (a.on side).link.probe, a, [])
  | .stop side => (.nothing, a.stop side)
  | .pass ms => (.nothing, pass ms a)

/-- Carries out a command and lets the agent rest. -/
def step (a : Agent) (c : BenchCommand) : BenchAnswer × Agent × List Sighting :=
  let (answer, a, seen) := a.carryOut c
  let (a, later) := a.rest
  (answer, a, seen ++ later)

end Agent

end LinkWarden

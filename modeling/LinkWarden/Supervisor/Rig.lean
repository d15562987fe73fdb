import LinkWarden.Supervisor.Lifecycle
import LinkWarden.Supervisor.Surroundings

/-!
# A supervisor on a test rig

A `Rig` drives one supervisor by hand. The answers of its transport are given with each command, an
attempt of the reconnector is held until a command lets it go, and after each command the workers
run until nothing can move by itself. Waits are *short* or *long*: a short one is over at once, a
long one is never over.
-/

namespace LinkWarden

/-- What the transport does when it is called: it delivers an event, and then the call fails or
succeeds. -/
structure Outcome where
  event : Option Event := none
  result : Except LinkError Unit := .ok ()
  /-- Whether the worker that made the call dies in it. -/
  dies : Bool := false

namespace Outcome

/-- Delivers an event and succeeds. -/
def emits (e : Event) : Outcome := { event := some e }

/-- The reply with this outcome. `connect` is how a call for a connection goes that the event leads
to. -/
def reply (o : Outcome) (connect : Reply) : Reply :=
  match o.event with
  | none => .returns o.result
  | some e => .delivers e connect (.returns o.result)

/-- The reply to a call for a connection where every such call has this outcome. Inside the call a
second one can be made, when the event says that the transport has started, but no third one: the
link is connecting then. -/
def connectReply (o : Outcome) : Reply := o.reply (o.reply (.returns o.result))

/-- The reply to an attempt of the reconnector, in which the reconnector may die. -/
def attemptReply (o : Outcome) : Reply := if o.dies then .dies else o.connectReply

end Outcome

/-- A supervisor on a test rig. -/
structure Rig where
  supervisor : Supervisor
  surroundings : Surroundings
  /-- Whether the transport has been bound. -/
  bound : Bool := false
  /-- Whether the supervisor has been dropped. -/
  gone : Bool := false
  /-- How often the transport has been asked to connect. -/
  connects : Nat := 0
  /-- How often the transport has been told to disconnect. -/
  disconnects : Nat := 0

/-- What a rig is told to do. -/
inductive RigCommand
  | init (start connect : Outcome)
  | emit (event : Event) (connect : Outcome)
  | attempt (outcome : Outcome)
  | probe (found : Option Probe) (disconnect : Outcome)
  | stop (outcome : Outcome)
  | drop (outcome : Outcome)
  | /-- Asks whether the transport can still deliver events. -/
    sink

/-- What a rig answers. -/
inductive RigAnswer
  | result (r : Except LinkError Unit)
  | delivered (accepted : Bool)
  | unbound
  | released
  | notWaiting
  | answered
  | notProbing
  | attached (yes : Bool)
  | gone
  | nothing

namespace Rig

/-- Counts the deeds of one kind. -/
def count (call : TransportCall) (acts : List Act) : Nat :=
  acts.countP fun a => a.deed == .calls call

/-- The rig after a step of the supervisor, and what could be seen of it. -/
def after (r : Rig) (s : Supervisor) (acts : List Act) : Rig × List Trace :=
  let (w, traces) := r.surroundings.performAll s.id acts
  ({ r with
      supervisor := s
      surroundings := w
      bound := r.bound || 0 < count .bind acts
      connects := r.connects + count .connect acts
      disconnects := r.disconnects + count .disconnect acts },
    traces)

/-- Lets the workers run. The prober forgets its misses while the link is not up. -/
def rest (r : Rig) : Rig × List Trace :=
  let (s, acts) := r.supervisor.settle isShort
  let s := if s.isConnected then s else (s.check none .done).1
  r.after s acts

/-- Whether the prober asks the transport now. -/
def isProbing (r : Rig) : Bool :=
  let s := r.supervisor
  s.probing && !s.stopping && s.isConnected && (s.supervision.health.interval.any isShort)

/-- Carries out a command, apart from the rest that follows it. -/
def carryOut (r : Rig) : RigCommand → RigAnswer × Rig × List Trace
  | .init start connect =>
    if r.gone then (.gone, r, [])
    else
      let (s, acts, ending) := r.supervisor.init (start.reply connect.connectReply)
      (match ending with
        | .returned result => .result result
        | .died => .nothing,
        r.after s acts)
  | .emit event connect =>
    if !r.bound then (.unbound, r, [])
    else if r.gone then (.delivered false, r, [])
    else
      let (s, acts, _) := r.supervisor.handle .caller event connect.connectReply
      (.delivered true, r.after s acts)
  | .attempt outcome =>
    if r.gone then (.gone, r, [])
    else match r.supervisor.reconnector with
      | .attempting _ _ =>
        let (s, acts) := r.supervisor.attempt outcome.attemptReply
        (.released, r.after s acts)
      | _ => (.notWaiting, r, [])
  | .probe found disconnect =>
    if r.isProbing then
      let (s, acts) := r.supervisor.check found (disconnect.reply .done)
      (.answered, r.after s acts)
    else (.notProbing, r, [])
  | .stop outcome =>
    if r.gone then (.gone, r, [])
    else
      let (s, acts) := r.supervisor.stop outcome.attemptReply
      (.nothing, r.after s acts)
  | .drop outcome =>
    if r.gone then (.gone, r, [])
    else
      let (s, acts) := r.supervisor.stop outcome.attemptReply
      let (r, traces) := r.after s acts
      (.nothing, { r with gone := true }, traces)
  | .sink => (if r.bound then .attached !r.gone else .unbound, r, [])

/-- Carries out a command and lets the workers run. -/
def step (r : Rig) (c : RigCommand) : RigAnswer × Rig × List Trace :=
  let (answer, r, traces) := r.carryOut c
  let (r, later) := r.rest
  (answer, r, traces ++ later)

end Rig

/-- A transport's handle to its supervisor, in diagnostics. -/
def sinkText (attached : Bool) : String :=
  "EventSink \x7b attached: " ++ toString attached ++ " \x7d"

end LinkWarden

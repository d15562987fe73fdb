import LinkWarden.Config.Settings
import LinkWarden.Supervisor.Basic

/-!
# Simulated links

A `SimulatedLink` stands in for a radio or a broker client. It does nothing at once: a call on it
asks for tasks to be carried out after a delay, and a task, when it is due, changes the link and
delivers an event. Its behaviour says how many attempts fail first, and when a session drops or its
peer falls silent.

Every session has a number. It changes when a session ends, and a task that was meant for an earlier
session then does nothing.
-/

namespace LinkWarden

/-! ### Profiles -/

/-- What a simulated link pretends to be. -/
inductive LinkProfile
  | wifi (credentials : WifiCredentials)
  | broker (endpoint : BrokerEndpoint)
  deriving DecidableEq, Repr

namespace LinkProfile

/-- Whether the link can be started. -/
def check : LinkProfile → Except LinkError Unit
  | .wifi credentials => credentials.check
  | .broker endpoint => endpoint.check

/-- What a session says about itself that an attempt with this number has opened. -/
def detail (attempt : UInt32) : LinkProfile → String
  | .wifi credentials =>
    credentials.ssid ++ " ip=192.168.4." ++ toString (10 + attempt.toNat % 200)
  | .broker endpoint => "session at " ++ endpoint.address

/-- Whether there is a radio. -/
def hasRadio : LinkProfile → Bool
  | .wifi _ => true
  | .broker _ => false

end LinkProfile

/-! ### Tasks -/

/-- Something that a simulated link does later. -/
inductive LinkTask
  | /-- It reports that it has started. -/
    start
  | /-- An attempt fails. -/
    fail (reason : String)
  | /-- An attempt succeeds. -/
    complete (detail : String)
  | /-- The peer stops answering probes in this session. -/
    silence (session : Nat)
  | /-- This session drops. -/
    expire (session : Nat)
  | /-- It reports that the host has ended the session. -/
    hangUp
  deriving DecidableEq, Repr

/-- A task and the milliseconds until it is due. -/
structure Delayed where
  delay : Nat
  task : LinkTask
  deriving DecidableEq, Repr

/-! ### Links -/

/-- A simulated link. -/
structure SimulatedLink where
  profile : LinkProfile
  behavior : LinkBehavior
  /-- Whether there is a supervisor to deliver events to. -/
  bound : Bool := false
  /-- How many attempts to connect there have been. -/
  attempts : UInt32 := 0
  up : Bool := false
  /-- Whether the peer answers probes. -/
  reachable : Bool := true
  /-- The number of the session. A counter of 64 bits holds the same until so many sessions have
  ended that it begins anew. -/
  session : Nat := 0
  deriving DecidableEq, Repr

/-- What comes of a call on a simulated link, or of a task. -/
structure LinkResponse where
  link : SimulatedLink
  result : Except LinkError Unit := .ok ()
  lines : List LogLine := []
  /-- The event that is delivered now. -/
  event : Option Event := none
  /-- What is to be done later, counted from the time when the event has been dealt with. -/
  tasks : List Delayed := []

namespace SimulatedLink

/-- A line about the simulation. -/
def note (text : String) : LogLine := .debug ("sim: " ++ text)

/-- The error of a call that needs a supervisor. -/
def unbound : LinkError := .transport "transport is not bound"

/-- Does nothing but ask for a task, if there is a supervisor to tell of it. -/
def later (l : SimulatedLink) (delay : Nat) (task : LinkTask) : LinkResponse :=
  if l.bound then { link := l, tasks := [⟨delay, task⟩] }
  else { link := l, result := .error unbound }

/-! ### Calls -/

/-- Gives the link a supervisor. -/
def bind (l : SimulatedLink) : SimulatedLink := { l with bound := true }

/-- Starts the link, unless it can never work. -/
def start (l : SimulatedLink) : LinkResponse :=
  match l.profile.check with
  | .error e => { link := l, result := .error e }
  | .ok () => l.later 0 .start

/-- Why the next attempt fails, if it does. -/
def refusal? (l : SimulatedLink) (carrierIsDown : Bool) : Option String :=
  if carrierIsDown then some "network unreachable"
  else if l.attempts + 1 ≤ l.behavior.failFirstAttempts then some "handshake rejected"
  else none

/-- Attempts to connect. -/
def connect (l : SimulatedLink) (carrierIsDown : Bool) : LinkResponse :=
  let attempt := l.attempts + 1
  let latency := l.behavior.connectLatencyMs.toNat
  let tried := { l with attempts := attempt }
  if l.bound then
    match l.refusal? carrierIsDown with
    | some reason =>
      { tried.later latency (.fail reason) with
        lines := [note ("attempt " ++ toString attempt.toNat ++ " will fail (" ++ reason ++ ")")] }
    | none => tried.later latency (.complete (l.profile.detail attempt))
  else { link := tried, result := .error unbound }

/-- Ends the session. -/
def disconnect (l : SimulatedLink) : LinkResponse :=
  { l with session := l.session + 1, up := false }.later 0 .hangUp

/-- Asks the peer for a sign of life. -/
def probe (l : SimulatedLink) : Option Probe :=
  if l.up then
    some {
      rssiDbm := if l.profile.hasRadio then some l.behavior.rssiDbm.toInt else none
      reachable := l.reachable }
  else none

/-- A call of a supervisor. Probes are answered by `probe`. -/
def call (l : SimulatedLink) (carrierIsDown : Bool) : TransportCall → LinkResponse
  | .bind => { link := l.bind }
  | .start => l.start
  | .connect => l.connect carrierIsDown
  | .disconnect => l.disconnect
  | .probe => { link := l }

/-- How a call ends, as its caller sees it: no event is delivered before it returns. -/
def reply (l : SimulatedLink) (c : TransportCall) : Reply := .returns (l.call false c).result

/-! ### Tasks that are due -/

/-- A task with a time in milliseconds, where 0 means never. -/
def timer (delay : UInt64) (task : LinkTask) : List Delayed :=
  if delay = 0 then [] else [⟨delay.toNat, task⟩]

/-- What a task does when it is due. -/
def fire (l : SimulatedLink) : LinkTask → LinkResponse
  | .start => { link := l, event := some .started }
  | .fail reason => { link := l, event := some (.lost (some reason)) }
  | .complete detail =>
    { link := { l with up := true, reachable := true }
      event := some (.established (some detail))
      tasks := timer l.behavior.unreachableAfterMs (.silence l.session) ++
        timer l.behavior.dropAfterMs (.expire l.session) }
  | .silence session =>
    if session = l.session then
      { link := { l with reachable := false }, lines := [note "peer stopped answering probes"] }
    else { link := l }
  | .expire session =>
    if session = l.session then
      { link := { l with session := l.session + 1, up := false }
        event := some (.lost (some "link dropped")) }
    else { link := l }
  | .hangUp => { link := l, event := some (.lost (some "disconnected by host")) }

/-- A task of an ended session does not end another one. -/
theorem fire_expire_of_ne {l : SimulatedLink} {session : Nat} (h : session ≠ l.session) :
    l.fire (.expire session) = { link := l } := by
  simp [fire, h]

end SimulatedLink

end LinkWarden

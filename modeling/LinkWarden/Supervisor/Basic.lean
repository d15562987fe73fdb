import LinkWarden.Link.Escalation
import LinkWarden.Link.Retry
import LinkWarden.Link.State
import LinkWarden.Link.Error

/-!
# A supervisor and what it does

A `Supervisor` keeps one transport connected. Its workers are a *reconnector*, which attempts to
connect whenever the link is lost, and, if the health policy asks for it, a prober, which ends
sessions whose peer has stopped answering. Both the workers and the caller act on the supervisor in
atomic steps; the phase of the reconnector says which step it takes next.

A step yields the supervisor after it and the `Deed`s done on the way, in order: calls on the
transport, accepted transitions, alerts, restarts and log lines. What a transport does when it is
called is a `Reply`: the events that it delivers before it returns, and its result.
-/

namespace LinkWarden

/-! ### Transports -/

/-- How one call on a transport goes. -/
inductive Reply
  | /-- It returns. -/
    returns (result : Except LinkError Unit)
  | /-- Whoever made the call dies in it. -/
    dies
  | /-- It delivers an event. If the event makes the supervisor ask for a connection, that call goes
    as `nested` says; the call itself goes on as `rest` says. -/
    delivers (event : Event) (nested rest : Reply)

namespace Reply

/-- A call that delivers nothing and succeeds. -/
def done : Reply := .returns (.ok ())

end Reply

/-- What a probe finds out. -/
structure Probe where
  /-- The signal strength, where the transport has a radio. -/
  rssiDbm : Option Int
  /-- Whether the peer answered. -/
  reachable : Bool
  deriving DecidableEq, Repr

/-! ### Deeds -/

/-- Who acts on a supervisor. -/
inductive Actor
  | caller
  | reconnector
  | prober
  deriving DecidableEq, Repr

/-- A call on a transport. -/
inductive TransportCall
  | bind
  | start
  | connect
  | disconnect
  | probe
  deriving DecidableEq, Repr

/-- Something that a supervisor does. -/
inductive Deed
  | /-- Calls the transport. -/
    calls (call : TransportCall)
  | /-- Accepts a transition: the history gets a record, and the listeners are told. -/
    moves (before after : LinkState)
  | /-- Charges an attempt to the backoff, which asks for so long a wait. -/
    charges (wait : Duration)
  | /-- Sets the indicator of an alert. -/
    alerts (alert : Alert)
  | /-- Restarts the device. -/
    restarts
  | logs (line : LogLine)
  deriving DecidableEq, Repr

/-- What is done when the budget of the supervisor with this id was used up by so many attempts: it
is announced, the alert is shown if there is one, and the device is restarted. -/
def Escalation.deeds (id : String) (attempts : UInt32) (e : Escalation) : List Deed :=
  .logs (announcement id attempts) :: (e.alert.map Deed.alerts).toList ++ [.restarts]

/-- A deed and who does it. -/
structure Act where
  actor : Actor
  deed : Deed
  deriving DecidableEq, Repr

/-! ### Supervisors -/

/-- What the reconnector is about to do. -/
inductive Reconnector
  | /-- It has not been started. -/
    unstarted
  | /-- It waits for the link to be lost. -/
    idle
  | /-- It has charged the attempt with this number and is about to call the transport; it will wait
    so long for the link. -/
    attempting (attempt : UInt32) (wait : Duration)
  | /-- It has called the transport and waits for the link. -/
    awaiting (attempt : UInt32) (wait : Duration)
  | exited
  | /-- It died in a call on the transport. -/
    dead
  deriving DecidableEq

/-- What has become of the prober. -/
inductive Prober
  | /-- There is none, or it has exited. -/
    absent
  | running
  | /-- It died in a call on the transport. -/
    dead
  deriving DecidableEq

/-- How a supervisor is set up. -/
structure Supervision where
  retry : RetryPolicy
  health : HealthPolicy := .disabled
  /-- What is done when the budget of attempts is used up, besides giving up. -/
  escalation : Option Escalation := none

namespace Supervision

/-- A budget of attempts, and then an escalation. -/
def escalating (e : Escalation) : Supervision :=
  { retry := ExponentialBackoff.bounded.policy, escalation := some e }

/-- Attempts without a budget. -/
def persistent : Supervision := { retry := ExponentialBackoff.unbounded.policy }

/-- Whether something is done when the budget of attempts is used up. -/
def escalates (s : Supervision) : Bool := s.escalation.isSome

end Supervision

/-- A supervisor of one link. -/
structure Supervisor where
  id : String
  supervision : Supervision
  state : LinkState := .initial
  backoff : Backoff
  /-- Whether initialisation has been begun and has not failed. -/
  initialized : Bool := false
  /-- Whether the workers have been told to exit. -/
  stopping : Bool := false
  reconnector : Reconnector := .unstarted
  prober : Prober := .absent
  /-- The unreachable probes in a row that the prober has counted. -/
  misses : UInt32 := 0
  /-- How many workers there are to wait for when the supervisor is stopped. -/
  workers : Nat := 0

namespace Supervisor

/-- A supervisor before its initialisation. -/
def make (id : String) (s : Supervision) : Supervisor :=
  { id, supervision := s, backoff := .initial s.retry }

def isConnected (s : Supervisor) : Bool := s.state == .connected

/-- Whether the prober runs. -/
def probing (s : Supervisor) : Bool := s.prober == .running

/-- A line about the supervisor. -/
def note (s : Supervisor) (level : Level) (text : String) : Deed :=
  .logs (.message level (s.id ++ ": " ++ text))

/-- The supervisor with the backoff of a link that is up. -/
def resetBackoff (s : Supervisor) : Supervisor :=
  { s with backoff := .initial s.supervision.retry }

/-- Deeds, all done by one actor. -/
def asActs (actor : Actor) (ds : List Deed) : List Act := ds.map fun d => ⟨actor, d⟩

/-- No deeds are no acts. -/
@[simp] theorem asActs_nil (actor : Actor) : asActs actor [] = [] := rfl

/-- The first deed is the first act. -/
@[simp] theorem asActs_cons (actor : Actor) (d : Deed) (ds : List Deed) :
    asActs actor (d :: ds) = ⟨actor, d⟩ :: asActs actor ds := rfl

/-- Deeds one after another are acts one after another. -/
@[simp] theorem asActs_append (actor : Actor) (ds es : List Deed) :
    asActs actor (ds ++ es) = asActs actor ds ++ asActs actor es := by
  simp [asActs]

/-- What holds of every line holds of acts that are nothing but lines. -/
theorem forall_of_logs {P : Act → Prop} (hP : ∀ actor line, P ⟨actor, .logs line⟩)
    {acts : List Act} (hacts : ∀ a ∈ acts, ∃ line, a.deed = .logs line) : ∀ a ∈ acts, P a := by
  rintro ⟨actor, deed⟩ ha
  obtain ⟨line, rfl⟩ : ∃ line, deed = .logs line := hacts _ ha
  exact hP actor line

/-- So does it of the deeds of an actor that does nothing but write lines. -/
theorem forall_asActs_of_logs {P : Act → Prop} (hP : ∀ actor line, P ⟨actor, .logs line⟩)
    {actor : Actor} {ds : List Deed} (hds : ∀ d ∈ ds, ∃ line, d = .logs line) :
    ∀ a ∈ asActs actor ds, P a := by
  refine forall_of_logs hP ?_
  intro a ha
  obtain ⟨d, hd, rfl⟩ := List.mem_map.mp ha
  exact hds d hd

/-- A supervisor is connected just if its link is in that state. -/
@[simp] theorem isConnected_iff (s : Supervisor) : s.isConnected = true ↔ s.state = .connected := by
  simp [isConnected]

end Supervisor

end LinkWarden

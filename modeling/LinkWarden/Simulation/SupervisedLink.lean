import LinkWarden.Simulation.Link
import LinkWarden.Supervisor.Lifecycle

/-!
# A supervised simulated link

A supervisor, the simulated link that it keeps connected, and the tasks of the link that are
pending. Tasks are due in order of their times, and those of one time in the order in which they
were asked for.
-/

namespace LinkWarden

/-- The time in milliseconds, and how many tasks have been asked for. -/
structure TaskClock where
  now : Nat := 0
  asked : Nat := 0
  deriving DecidableEq, Repr

/-- A task that is pending. -/
structure PendingTask where
  task : LinkTask
  /-- The time when it is due. -/
  due : Nat
  /-- How many tasks were asked for before. -/
  order : Nat
  deriving DecidableEq, Repr

namespace PendingTask

/-- Whether a task comes before another one. -/
def isBefore (p q : PendingTask) : Bool := p.due < q.due || (p.due == q.due && p.order < q.order)

/-- The first of some tasks. -/
def first? : List PendingTask → Option PendingTask
  | [] => none
  | p :: ps =>
    match first? ps with
    | none => some p
    | some q => if q.isBefore p then some q else some p

/-- The first of some tasks is one of them. -/
theorem mem_of_first?_eq_some {ps : List PendingTask} {p : PendingTask} (h : first? ps = some p) :
    p ∈ ps := by
  induction ps generalizing p with
  | nil => simp [first?] at h
  | cons q qs ih =>
    unfold first? at h
    split at h
    · simp_all
    · next hq =>
      split at h <;> cases h
      · exact List.mem_cons_of_mem _ (ih hq)
      · exact List.mem_cons_self

end PendingTask

/-- Makes tasks pending. -/
def TaskClock.schedule (c : TaskClock) : List Delayed → TaskClock × List PendingTask
  | [] => (c, [])
  | d :: ds =>
    let p : PendingTask := { task := d.task, due := c.now + d.delay, order := c.asked }
    let (c, ps) := TaskClock.schedule { c with asked := c.asked + 1 } ds
    (c, p :: ps)

/-- A simulated link under supervision. -/
structure SupervisedLink where
  supervisor : Supervisor
  link : SimulatedLink
  pending : List PendingTask := []

namespace SupervisedLink

/-- Asks for tasks. -/
def ask (s : SupervisedLink) (c : TaskClock) (ds : List Delayed) : SupervisedLink × TaskClock :=
  let (c, ps) := c.schedule ds
  ({ s with pending := s.pending ++ ps }, c)

/-- Takes over the link from a response, and asks for its tasks. -/
def accept (s : SupervisedLink) (c : TaskClock) (r : LinkResponse) : SupervisedLink × TaskClock :=
  { s with link := r.link }.ask c r.tasks

/-- The first pending task, if it is due. -/
def due? (s : SupervisedLink) (now : Nat) : Option PendingTask :=
  (PendingTask.first? s.pending).filter fun p => p.due ≤ now

/-- A pending task is taken up. -/
def take (s : SupervisedLink) (p : PendingTask) : SupervisedLink :=
  { s with pending := s.pending.erase p }

/-! ### Steps of the supervisor over its link -/

/-- The start of a simulated link returns, so that its supervisor is told how it went. -/
theorem init_ne_died (s : SupervisedLink) :
    (s.supervisor.init (s.link.bind.reply .start)).2.2 ≠ .died :=
  Supervisor.init_returns_ne_died _ _

/-- The supervisor is initialised, and its link is bound and started. -/
def init (s : SupervisedLink) : Supervisor × List Act × Except LinkError Unit :=
  let x := s.supervisor.init (s.link.bind.reply .start)
  (x.1, x.2.1, x.2.2.result s.init_ne_died)

/-- The supervisor handles an event, and its link answers the call that this may lead to. -/
def handle (s : SupervisedLink) (e : Event) : Supervisor × List Act :=
  let (t, acts, _) := s.supervisor.handle .caller e (s.link.reply .connect)
  (t, acts)

/-- The reconnector makes the attempt that it has charged. -/
def attempt (s : SupervisedLink) : Supervisor × List Act :=
  s.supervisor.attempt (s.link.reply .connect)

/-- The prober makes a round: it finds what the link tells it. -/
def check (s : SupervisedLink) : Supervisor × List Act :=
  s.supervisor.check s.link.probe (s.link.reply .disconnect)

/-- The supervisor is stopped; an attempt that is held is still made. -/
def stop (s : SupervisedLink) : Supervisor × List Act :=
  s.supervisor.stop (s.link.reply .connect)

end SupervisedLink

end LinkWarden

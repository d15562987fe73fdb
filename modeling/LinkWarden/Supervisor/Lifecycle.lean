import LinkWarden.Supervisor.Workers

/-!
# Starting and stopping a supervisor

`init` succeeds once: it binds and starts the transport and then starts the workers. When the
transport refuses to start, nothing has been started and `init` may be called again. When the caller
dies in the start, no worker is started either, but the supervisor counts as initialised. `stop`
tells the workers to exit and waits for them; afterwards events are still handled, but nobody
attempts to connect any more.
-/

namespace LinkWarden.Supervisor

/-- The supervisor with its workers started. -/
def startWorkers (s : Supervisor) : Supervisor × List Act :=
  let probed := s.supervision.health.isEnabled
  ({ s with
      reconnector := .idle
      prober := if probed then .running else .absent
      workers := s.workers + (if probed then 2 else 1) },
    asActs .reconnector [s.note .debug "reconnector started"] ++
      asActs .caller [s.note .info "supervisor initialized"])

/-- Initialises the supervisor. The start of the transport goes as `reply` says. -/
def init (reply : Reply) (s : Supervisor) : Supervisor × List Act × Ending :=
  if s.initialized || s.state != .notInitialized then
    ({ s with initialized := true }, [], .returned (.error (.alreadyInitialized s.id)))
  else
    let (t, acts, ending) := play .caller reply { s with initialized := true }
    let sofar := asActs .caller [.calls .bind, .calls .start] ++ acts
    match ending with
    | .returned (.error e) =>
      ({ t with initialized := false },
        sofar ++ asActs .caller [t.note .error ("transport start failed: " ++ e.message)],
        .returned (.error e))
    | .returned (.ok ()) =>
      let (u, started) := t.startWorkers
      (u, sofar ++ started, .returned (.ok ()))
    | .died => (t, sofar, .died)

/-- The caller does not die in a start that delivers nothing and returns. -/
theorem init_returns_ne_died (result : Except LinkError Unit) (s : Supervisor) :
    (s.init (.returns result)).2.2 ≠ .died := by
  unfold init
  split
  · exact Ending.noConfusion
  · cases result <;> exact Ending.noConfusion

/-- The workers are told to exit. -/
def requestStop (s : Supervisor) : Supervisor := { s with stopping := true }

/-- The reconnector goes on to its exit. An attempt that has been charged is still made; it goes as
`reply` says. -/
def finish (reply : Reply) (s : Supervisor) : Supervisor × List Act :=
  match s.reconnector with
  | .attempting _ _ =>
    let (t, made) := s.attempt reply
    let (u, left) := t.wake false
    (u, made ++ left)
  | .idle => s.leave
  | .awaiting _ _ => s.leave
  | _ => (s, [])

/-- How many workers have died. -/
def deaths (s : Supervisor) : Nat :=
  (if s.reconnector = .dead then 1 else 0) + if s.prober = .dead then 1 else 0

/-- Waits for the workers, and warns of those that have died. -/
def join (s : Supervisor) : Supervisor × List Act :=
  if s.workers = 0 then (s, [])
  else
    let warnings := List.replicate s.deaths (s.note .warn "worker thread panicked")
    ({ s with workers := 0, prober := .absent },
      asActs .caller (warnings ++ [s.note .info "supervisor stopped"]))

/-- To wait for the workers changes nothing but who there is to wait for. -/
theorem join_frame (s : Supervisor) :
    s.join.1 = { s with workers := 0, prober := s.join.1.prober } := by
  unfold join
  split
  · next h => rw [← h]
  · rfl

/-- Only lines are written while the workers are waited for. -/
theorem logs_of_mem_join {s : Supervisor} {a : Act} (ha : a ∈ s.join.2) :
    ∃ line, a.deed = .logs line := by
  unfold join at ha
  split at ha
  · cases ha
  · obtain ⟨d, hd, rfl⟩ := List.mem_map.mp ha
    rcases List.mem_append.mp hd with hd | hd
    · exact ⟨_, List.eq_of_mem_replicate hd⟩
    · exact ⟨_, List.mem_singleton.mp hd⟩

/-- Stops the supervisor. -/
def stop (reply : Reply) (s : Supervisor) : Supervisor × List Act :=
  let (t, finished) := finish reply s.requestStop
  let (u, joined) := t.join
  (u, finished ++ joined)

end LinkWarden.Supervisor

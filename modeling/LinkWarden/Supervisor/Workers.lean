import LinkWarden.Supervisor.Events

/-!
# The workers

The reconnector goes round in three steps. `charge`: woken by the loss of the link, it charges an
attempt, or gives up when the budget is used up. `attempt`: it asks the transport to connect.
`wake`: its wait ends because the link is up, because the time is over, or because it has to exit.
`settle` lets it go on as far as it can without a call on the transport.

The prober has one step, `check`, at every interval.

A worker that dies in a call on the transport takes no step any more.
-/

namespace LinkWarden

/-- What has become of a prober whose call on the transport ended so. -/
def Prober.after (p : Prober) : Ending → Prober
  | .died => .dead
  | .returned _ => p

/-- Waits from this length on are long, where waits are only told apart as short and long. -/
def longWait : Duration := .ofSeconds 5

/-- Whether a wait is short. -/
def isShort (d : Duration) : Bool := decide (d < longWait)

namespace Supervisor

/-! ### The reconnector -/

/-- The reconnector exits. -/
def leave (s : Supervisor) : Supervisor × List Act :=
  ({ s with reconnector := .exited }, asActs .reconnector [s.note .debug "reconnector stopped"])

/-- What is done when the budget was used up by so many attempts. -/
def giveUpDeeds (s : Supervisor) (attempts : UInt32) : List Deed :=
  match s.supervision.escalation with
  | some e => e.deeds s.id attempts
  | none =>
    [s.note .error ("retry budget exhausted after " ++ toString attempts.toNat ++ " attempts")]

/-- Woken while it waited for the loss of the link, the reconnector charges an attempt. If an event
has moved the link on in the meantime, or the workers have been told to exit, nothing is charged. -/
def charge (s : Supervisor) : Supervisor × List Act :=
  match s.reconnector with
  | .idle =>
    if s.stopping || s.state != .disconnected then
      (s, asActs .reconnector [s.note .debug "link left Disconnected, skipping attempt"])
    else
      match s.backoff.advance s.supervision.retry with
      | (backoff, .retry wait) =>
        ({ s with backoff, reconnector := .attempting backoff.attempt wait },
          asActs .reconnector [
            .charges wait,
            s.note .info ("reconnect attempt " ++ toString backoff.attempt.toNat ++
              " (waiting up to " ++ wait.text ++ ")")])
      | (backoff, .exhausted attempts) =>
        let (t, acts) := leave { s with backoff }
        (t, asActs .reconnector (s.giveUpDeeds attempts) ++ acts)
  | _ => (s, [])

/-- The reconnector waits for the loss of the link, and it is lost: a turn charges an attempt. -/
def IsDue (s : Supervisor) : Prop :=
  s.reconnector = .idle ∧ s.stopping = false ∧ s.state = .disconnected

instance (s : Supervisor) : Decidable s.IsDue :=
  inferInstanceAs (Decidable (_ ∧ _ ∧ _))

/-- A turn that is not due changes nothing and says at most that it is skipped. -/
theorem charge_of_not_due {s : Supervisor} (h : ¬ s.IsDue) :
    s.charge = (s, []) ∨
      s.charge =
        (s, asActs .reconnector [s.note .debug "link left Disconnected, skipping attempt"]) := by
  unfold charge
  split
  · next hr =>
    right
    rw [if_pos]
    by_cases hs : s.stopping
    · simp [hs]
    · have : s.state ≠ .disconnected := fun hd => h ⟨hr, by simpa using hs, hd⟩
      simp [this]
  · exact .inl rfl

/-- The supervisor that has charged an attempt. -/
def charged (s : Supervisor) : Supervisor :=
  let count := Backoff.countUp s.backoff.attempt
  let wait := s.supervision.retry.delay s.backoff.attempt
  { s with backoff := ⟨count, wait⟩, reconnector := .attempting count wait }

/-- What is done when an attempt is charged. -/
def chargeDeeds (s : Supervisor) : List Deed :=
  let count := Backoff.countUp s.backoff.attempt
  let wait := s.supervision.retry.delay s.backoff.attempt
  [.charges wait,
    s.note .info ("reconnect attempt " ++ toString count.toNat ++ " (waiting up to " ++ wait.text ++
      ")")]

/-- A turn that is due charges an attempt while the budget lasts. -/
theorem charge_of_allows {s : Supervisor} (h : s.IsDue)
    (ha : s.supervision.retry.allows s.backoff.attempt = true) :
    s.charge = (s.charged, asActs .reconnector s.chargeDeeds) := by
  obtain ⟨hr, hs, hd⟩ := h
  simp [charge, hr, hs, hd, Backoff.advance_of_allows ha, charged, chargeDeeds]

/-- A turn that is due gives up when the budget is used up. -/
theorem charge_of_not_allows {s : Supervisor} (h : s.IsDue)
    (ha : s.supervision.retry.allows s.backoff.attempt = false) :
    s.charge =
      ({ s with reconnector := .exited },
        asActs .reconnector (s.giveUpDeeds s.backoff.attempt ++
          [s.note .debug "reconnector stopped"])) := by
  obtain ⟨hr, hs, hd⟩ := h
  simp [charge, hr, hs, hd, Backoff.advance_of_not_allows ha, leave, note]

/-- The reconnector makes the attempt that it has charged. -/
def attempt (reply : Reply) (s : Supervisor) : Supervisor × List Act :=
  match s.reconnector with
  | .attempting n wait =>
    let (t, acts, ending) := connect .reconnector reply s
    match ending with
    | .died => ({ t with reconnector := .dead }, acts)
    | .returned _ => ({ t with reconnector := .awaiting n wait }, acts)
  | _ => (s, [])

/-- A whole turn of the reconnector: the charge, and the attempt if one was charged. -/
def turn (reply : Reply) (s : Supervisor) : Supervisor × List Act :=
  let (t, charged) := s.charge
  let (u, made) := t.attempt reply
  (u, charged ++ made)

/-- The wait after an attempt ends, if it can: the workers have been told to exit, the link is up,
or the time is over. -/
def wake (timeIsOver : Bool) (s : Supervisor) : Supervisor × List Act :=
  match s.reconnector with
  | .awaiting n _ =>
    if s.stopping then s.leave
    else if s.isConnected then
      ({ s.resetBackoff with reconnector := .idle },
        asActs .reconnector [s.note .info ("reconnected after " ++ toString n.toNat ++
          " attempt(s)")])
    else if timeIsOver then
      ({ s with reconnector := .idle },
        asActs .reconnector [s.note .debug ("attempt " ++ toString n.toNat ++ " timed out")])
    else (s, [])
  | _ => (s, [])

/-- The next step of the reconnector, if it can take one without a call on the transport. A wait for
which `isOver` holds ends by itself. -/
def advance (isOver : Duration → Bool) (s : Supervisor) : Supervisor × List Act :=
  match s.reconnector with
  | .idle =>
    if s.stopping then s.leave
    else if s.state = .disconnected then s.charge
    else (s, [])
  | .awaiting _ wait => s.wake (isOver wait)
  | _ => (s, [])

/-- Lets the reconnector go on until it rests. Two steps are enough: the end of a wait leads to
`idle`, and from there to a phase that rests. -/
def settle (isOver : Duration → Bool) (s : Supervisor) : Supervisor × List Act :=
  let (t, first) := s.advance isOver
  let (u, second) := t.advance isOver
  (u, first ++ second)

/-! ### The prober -/

/-- What a probe says in the log. -/
def probeDeeds (s : Supervisor) (p : Probe) : List Deed :=
  match p.rssiDbm with
  | some rssi => [s.note .debug ("RSSI " ++ toString rssi ++ " dBm")]
  | none => [s.note .debug ("probe ok=" ++ toString p.reachable)]

/-- A line is written about a probe. -/
theorem logs_of_mem_probeDeeds {s : Supervisor} {p : Probe} {d : Deed}
    (hd : d ∈ s.probeDeeds p) : ∃ line, d = .logs line := by
  unfold probeDeeds at hd
  split at hd <;> exact ⟨_, List.mem_singleton.mp hd⟩

/-- What is done about a forced disconnection that ended so. -/
def disconnectDeeds (s : Supervisor) : Ending → List Deed
  | .returned (.error e) => [s.note .warn ("forced disconnect failed: " ++ e.message)]
  | _ => []

/-- At most a line is written about the end of a forced disconnection. -/
theorem logs_of_mem_disconnectDeeds {s : Supervisor} {ending : Ending} {d : Deed}
    (hd : d ∈ s.disconnectDeeds ending) : ∃ line, d = .logs line := by
  unfold disconnectDeeds at hd
  split at hd
  · exact ⟨_, List.mem_singleton.mp hd⟩
  · cases hd

/-- An unreachable probe is counted. At the threshold the count begins anew and the transport is
told to disconnect; that call goes as `reply` says. -/
def miss (reply : Reply) (s : Supervisor) : Supervisor × List Act :=
  let misses := s.misses + 1
  let threshold := s.supervision.health.threshold
  let warning := asActs .prober [s.note .warn ("unreachable (" ++ toString misses.toNat ++ "/" ++
    toString threshold.toNat ++ ")")]
  if threshold ≤ misses then
    let (t, acts, ending) := play .prober reply { s with misses := 0 }
    ({ t with prober := t.prober.after ending },
      warning ++ ⟨.prober, .calls .disconnect⟩ :: acts ++
        asActs .prober (t.disconnectDeeds ending))
  else ({ s with misses }, warning)

/-- What the prober makes of a probe that found something. -/
def judge (p : Probe) (reply : Reply) (s : Supervisor) : Supervisor × List Act :=
  let heard := asActs .prober (s.probeDeeds p)
  if p.reachable then ({ s with misses := 0 }, heard)
  else
    let (t, acts) := s.miss reply
    (t, heard ++ acts)

/-- A round of the prober. It probes a link that is up, and forgets the misses of one that is not.
`found` is what the probe returns. -/
def check (found : Option Probe) (reply : Reply) (s : Supervisor) : Supervisor × List Act :=
  if !s.probing || s.stopping then (s, [])
  else if !s.isConnected then ({ s with misses := 0 }, [])
  else
    let asked := asActs .prober [.calls .probe]
    match found with
    | none => (s, asked)
    | some p =>
      let (t, acts) := s.judge p reply
      (t, asked ++ acts)

end Supervisor

end LinkWarden

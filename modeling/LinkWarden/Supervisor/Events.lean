import LinkWarden.Supervisor.Basic

/-!
# Events of the transport

`Supervisor.handle` is what an event does: the table of transitions decides whether it is accepted;
if so, the link moves, the backoff is reset when the link is up, and the transport is asked to
connect when it has started. `play` follows a call on the transport through the events that it
delivers, which are handled at once and may lead to calls inside the call.
-/

namespace LinkWarden

/-- How a call ended. -/
inductive Ending
  | returned (result : Except LinkError Unit)
  | /-- Whoever made the call died in it. -/
    died

namespace Ending

/-- Whether the call has returned without an error. -/
def isOk : Ending → Bool
  | .returned result => result.isOk
  | .died => false

/-- The result of a call that has returned. -/
def result : (ending : Ending) → ending ≠ .died → Except LinkError Unit
  | .returned result, _ => result
  | .died, h => absurd rfl h

/-- The result of a call is the one that it has returned with. -/
theorem result_eq {ending : Ending} {r : Except LinkError Unit} (h : ending ≠ .died)
    (hr : ending = .returned r) : ending.result h = r := by
  subst hr
  rfl

end Ending

namespace Supervisor

/-! ### One event -/

/-- The supervisor after an accepted event, before it calls the transport. -/
def moved (s : Supervisor) (m : Move) : Supervisor :=
  let s := { s with state := m.to }
  if m.action = some .resetBackoff then s.resetBackoff else s

/-- The fields of a supervisor that an accepted event changes. -/
theorem moved_eq (s : Supervisor) (m : Move) :
    s.moved m = { s with
      state := m.to
      backoff := if m.action = some .resetBackoff then .initial s.supervision.retry
        else s.backoff } := by
  unfold moved
  by_cases h : m.action = some .resetBackoff <;> simp [h, resetBackoff]

/-- The link is in the state that the move leads to. -/
@[simp] theorem moved_state (s : Supervisor) (m : Move) : (s.moved m).state = m.to := by
  rw [moved_eq]

/-- A move leaves the setup alone. -/
@[simp] theorem moved_supervision (s : Supervisor) (m : Move) :
    (s.moved m).supervision = s.supervision := by
  rw [moved_eq]

/-- What is done about an accepted event before the transport is called. -/
def moveDeeds (s : Supervisor) (e : Event) (m : Move) : List Deed := [
  .moves s.state m.to,
  s.note .debug (e.text ++ " (" ++ s.state.name ++ " -> " ++ m.to.name ++ ")")]

/-- What is done about an event that the table has no entry for. -/
def ignoreDeeds (s : Supervisor) (e : Event) : List Deed :=
  [s.note .debug ("ignoring " ++ e.text ++ " in state " ++ s.state.name)]

/-! ### Calls on the transport -/

/-- What is done about a call for a connection that ended so. -/
def connectDeeds (s : Supervisor) : Ending → List Deed
  | .returned (.error e) => [s.note .warn ("connect failed: " ++ e.message)]
  | _ => []

/-- At most a line is written about the end of a call for a connection. -/
theorem logs_of_mem_connectDeeds {s : Supervisor} {ending : Ending} {d : Deed}
    (hd : d ∈ s.connectDeeds ending) : ∃ line, d = .logs line := by
  unfold connectDeeds at hd
  split at hd
  · exact ⟨_, List.mem_singleton.mp hd⟩
  · cases hd

/-- Follows a call on the transport. -/
def play (actor : Actor) : Reply → Supervisor → Supervisor × List Act × Ending
  | .returns result, s => (s, [], .returned result)
  | .dies, s => (s, [], .died)
  | .delivers e nested rest, s =>
    match s.state.next e with
    | none =>
      let (t, acts, ending) := play actor rest s
      (t, asActs actor (s.ignoreDeeds e) ++ acts, ending)
    | some m =>
      let here := asActs actor (s.moveDeeds e m)
      if m.action = some .connect then
        let (t, inner, ending) := play actor nested (s.moved m)
        let sofar :=
          here ++ ⟨actor, .calls .connect⟩ :: inner ++ asActs actor (t.connectDeeds ending)
        match ending with
        | .died => (t, sofar, .died)
        | .returned _ =>
          let (u, acts, ending) := play actor rest t
          (u, sofar ++ acts, ending)
      else
        let (u, acts, ending) := play actor rest (s.moved m)
        (u, here ++ acts, ending)

/-- Asks the transport for a connection. -/
def connect (actor : Actor) (reply : Reply) (s : Supervisor) : Supervisor × List Act × Ending :=
  let (t, acts, ending) := play actor reply s
  (t, ⟨actor, .calls .connect⟩ :: acts ++ asActs actor (t.connectDeeds ending), ending)

/-- A call that returns at once changes nothing. -/
@[simp] theorem play_returns (actor : Actor) (result : Except LinkError Unit) (s : Supervisor) :
    play actor (.returns result) s = (s, [], .returned result) := rfl

/-- Nor does one in which the caller dies at once. -/
@[simp] theorem play_dies (actor : Actor) (s : Supervisor) :
    play actor .dies s = (s, [], .died) := rfl

/-- An event that is ignored. -/
theorem play_ignored {actor : Actor} {e : Event} {nested rest : Reply} {s : Supervisor}
    (h : s.state.next e = none) :
    play actor (.delivers e nested rest) s =
      ((play actor rest s).1, asActs actor (s.ignoreDeeds e) ++ (play actor rest s).2.1,
        (play actor rest s).2.2) := by
  rw [play, h]

/-- An accepted event that does not ask for a connection. -/
theorem play_moved {actor : Actor} {e : Event} {nested rest : Reply} {s : Supervisor} {m : Move}
    (h : s.state.next e = some m) (hm : m.action ≠ some .connect) :
    play actor (.delivers e nested rest) s =
      ((play actor rest (s.moved m)).1,
        asActs actor (s.moveDeeds e m) ++ (play actor rest (s.moved m)).2.1,
        (play actor rest (s.moved m)).2.2) := by
  rw [play, h]
  simp only [hm, if_false]

/-- An accepted event that asks for a connection, when the caller dies in that call. -/
theorem play_started_of_died {actor : Actor} {e : Event} {nested rest : Reply} {s : Supervisor}
    {m : Move} (h : s.state.next e = some m) (hm : m.action = some .connect)
    (hd : (connect actor nested (s.moved m)).2.2 = .died) :
    play actor (.delivers e nested rest) s =
      ((connect actor nested (s.moved m)).1,
        asActs actor (s.moveDeeds e m) ++ (connect actor nested (s.moved m)).2.1, .died) := by
  have hd' : (play actor nested (s.moved m)).2.2 = .died := hd
  rw [play, h]
  simp [hm, hd', connect]

/-- An accepted event that asks for a connection, when that call returns. -/
theorem play_started_of_returned {actor : Actor} {e : Event} {nested rest : Reply}
    {s : Supervisor} {m : Move} {result : Except LinkError Unit}
    (h : s.state.next e = some m) (hm : m.action = some .connect)
    (hr : (connect actor nested (s.moved m)).2.2 = .returned result) :
    play actor (.delivers e nested rest) s =
      ((play actor rest (connect actor nested (s.moved m)).1).1,
        asActs actor (s.moveDeeds e m) ++ (connect actor nested (s.moved m)).2.1 ++
          (play actor rest (connect actor nested (s.moved m)).1).2.1,
        (play actor rest (connect actor nested (s.moved m)).1).2.2) := by
  have hr' : (play actor nested (s.moved m)).2.2 = .returned result := hr
  rw [play, h]
  simp [hm, hr', connect]

/-- Handles an event. If it makes the supervisor ask for a connection, that call goes as `reply`
says. -/
def handle (actor : Actor) (e : Event) (reply : Reply) (s : Supervisor) :
    Supervisor × List Act × Ending :=
  play actor (.delivers e reply .done) s

end Supervisor

end LinkWarden

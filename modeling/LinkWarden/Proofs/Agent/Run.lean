import LinkWarden.Agent.Basic
import LinkWarden.Proofs.Supervisor.Run

/-!
# Runs of the agent

The agent moves when something occurs on one of its sides: a supervisor is initialised or stopped, a
pending task of a link is carried out, a reconnector or a prober goes on, or time passes. A run is
any finite sequence of occurrences in any order; of the pending tasks any one may be the next, as
nothing is assumed about latencies.

* `Carries` is the frame of everything that occurs without an event: the links stay in their
  states, and the tasks of the broker only become more. All occurrences are of this kind except that
  a task is carried out (`carries_occur`), and this one is up to the task itself (`carries_fire`).
* `exists_hangUp_of_performAll`: if the network is lost while the session is up, a task that ends
  the session becomes pending.
-/

namespace LinkWarden

/-! ### Tasks that become pending -/

/-- Each task that is asked for becomes pending. -/
theorem TaskClock.mem_schedule {d : Delayed} {ds : List Delayed} (h : d ∈ ds) (c : TaskClock) :
    ∃ p ∈ (c.schedule ds).2, p.task = d.task := by
  induction ds generalizing c with
  | nil => exact absurd h List.not_mem_nil
  | cons e es ih =>
    rcases List.mem_cons.mp h with rfl | h
    · exact ⟨_, List.mem_cons_self, rfl⟩
    · obtain ⟨p, hp, htask⟩ := ih h { c with asked := c.asked + 1 }
      exact ⟨p, List.mem_cons_of_mem _ hp, htask⟩

/-- Of tasks that become pending each has been asked for. -/
theorem TaskClock.mem_of_mem_schedule {c : TaskClock} {ds : List Delayed} {p : PendingTask}
    (h : p ∈ (c.schedule ds).2) : ∃ d ∈ ds, p.task = d.task := by
  induction ds generalizing c with
  | nil => exact absurd h List.not_mem_nil
  | cons e es ih =>
    rcases List.mem_cons.mp h with rfl | h
    · exact ⟨e, List.mem_cons_self, rfl⟩
    · obtain ⟨d, hd, htask⟩ := ih h
      exact ⟨d, List.mem_cons_of_mem _ hd, htask⟩

/-- A response keeps the link bound if it was, and asks for tasks only if it is. -/
structure LinkResponse.IsFair (l : SimulatedLink) (r : LinkResponse) : Prop where
  bound : l.bound = true → r.link.bound = true
  tasks : r.tasks ≠ [] → r.link.bound = true

namespace SimulatedLink

/-- To ask for a task is fair: without a supervisor the request fails. -/
theorem isFair_later (l : SimulatedLink) (delay : Nat) (task : LinkTask) :
    (l.later delay task).IsFair l := by
  unfold later
  split
  · next hb => exact ⟨fun _ => hb, fun _ => hb⟩
  · exact ⟨id, fun h => absurd rfl h⟩

/-- An attempt to connect is fair. -/
theorem isFair_connect (l : SimulatedLink) (carrierIsDown : Bool) :
    (l.connect carrierIsDown).IsFair l := by
  unfold connect
  dsimp only
  split
  · have h := isFair_later { l with attempts := l.attempts + 1 } l.behavior.connectLatencyMs.toNat
    split
    · exact ⟨(h _).bound, (h _).tasks⟩
    · exact ⟨(h _).bound, (h _).tasks⟩
  · exact ⟨id, fun h => absurd rfl h⟩

/-- **Every call on a link is fair.** -/
theorem isFair_call (l : SimulatedLink) (carrierIsDown : Bool) (c : TransportCall) :
    (l.call carrierIsDown c).IsFair l := by
  cases c with
  | bind => exact ⟨fun _ => rfl, fun _ => rfl⟩
  | start =>
    show l.start.IsFair l
    unfold start
    split
    · exact ⟨id, fun h => absurd rfl h⟩
    · exact isFair_later l 0 .start
  | connect => exact isFair_connect l carrierIsDown
  | disconnect =>
    have h := isFair_later { l with session := l.session + 1, up := false } 0 .hangUp
    exact ⟨h.bound, h.tasks⟩
  | probe => exact ⟨id, fun h => absurd rfl h⟩

/-- A task that is carried out does not change whether the link is bound. -/
@[simp] theorem bound_fire (l : SimulatedLink) (t : LinkTask) :
    (l.fire t).link.bound = l.bound := by
  cases t <;> simp only [fire] <;> split <;> rfl

end SimulatedLink

namespace Agent

/-! ### The frame of what is done about deeds -/

/-- The links are in the same states, no task of the broker is lost, and it is asked for tasks only
if it is bound. -/
structure Carries (a b : Agent) : Prop where
  wifi : b.wifi.supervisor.state = a.wifi.supervisor.state
  broker : b.broker.supervisor.state = a.broker.supervisor.state
  pending : ∀ p ∈ a.broker.pending, p ∈ b.broker.pending
  bound : a.broker.link.bound = true → b.broker.link.bound = true
  asked : ∀ p ∈ b.broker.pending, p ∈ a.broker.pending ∨ b.broker.link.bound = true

namespace Carries

/-- An agent carries all that it has. -/
theorem refl (a : Agent) : Carries a a :=
  ⟨rfl, rfl, fun _ hp => hp, id, fun _ hp => .inl hp⟩

/-- What is carried along two changes is carried along both. -/
theorem trans {a b c : Agent} (hab : Carries a b) (hbc : Carries b c) : Carries a c := by
  refine ⟨hbc.wifi.trans hab.wifi, hbc.broker.trans hab.broker,
    fun p hp => hbc.pending p (hab.pending p hp), fun h => hbc.bound (hab.bound h), ?_⟩
  intro p hp
  rcases hbc.asked p hp with hp | hb
  · rcases hab.asked p hp with hp | hb
    · exact .inl hp
    · exact .inr (hbc.bound hb)
  · exact .inr hb

end Carries

/-- The response of a link is fair, so that its tasks are added to those of the broker only if the
broker is bound. -/
theorem carries_accept (a : Agent) (side : Side) {r : LinkResponse}
    (hr : r.IsFair (a.on side).link) : Carries a (a.accept side r) := by
  cases side with
  | wifi => exact ⟨rfl, rfl, fun _ hp => hp, id, fun _ hp => .inl hp⟩
  | broker =>
    refine ⟨rfl, rfl, fun p hp => List.mem_append_left _ hp, hr.bound, ?_⟩
    intro p hp
    rcases List.mem_append.mp hp with hp | hp
    · exact .inl hp
    · refine .inr (hr.tasks ?_)
      intro hnil
      simp [hnil, TaskClock.schedule] at hp

/-- A call on a link moves no link and loses no task. -/
theorem carries_call (a : Agent) (side : Side) (c : TransportCall) :
    Carries a (a.call side c).1 :=
  carries_accept a side (SimulatedLink.isFair_call _ _ c)

/-- Nor does what follows the loss of the network: at most a session is ended, and the report of it
becomes pending. -/
theorem carries_follow (a : Agent) (actor : Actor) : Carries a (a.follow actor).1 := by
  unfold follow
  split
  · exact carries_call a .broker .disconnect
  · exact .refl a

/-- What is done about one deed moves no link and loses no task. -/
theorem carries_perform (side : Side) (a : Agent) (act : Act) :
    Carries a (perform side a act).1 := by
  unfold perform
  split
  · exact carries_call a side _
  · dsimp only
    have hsame : Carries a { a with surroundings := (a.surroundings.perform side.id act).1 } :=
      ⟨rfl, rfl, fun _ hp => hp, id, fun _ hp => .inl hp⟩
    split
    · exact hsame.trans (carries_follow _ act.actor)
    · exact hsame

/-- **What is done about deeds moves no link and loses no task.** -/
theorem carries_performAll (side : Side) (a : Agent) (acts : List Act) :
    Carries a (performAll side a acts).1 := by
  induction acts generalizing a with
  | nil => exact .refl a
  | cons act acts ih => exact (carries_perform side a act).trans (ih _)

/-! ### The end of a session -/

/-- A session that is up is ended when the network is lost. -/
theorem exists_hangUp_of_follow {a : Agent} (actor : Actor)
    (hc : a.broker.supervisor.state = .connected) (hb : a.broker.link.bound = true) :
    ∃ p ∈ (a.follow actor).1.broker.pending, p.task = .hangUp := by
  have hr : (a.call .broker .disconnect).2.tasks = [⟨0, .hangUp⟩] := by
    simp [call, on, SimulatedLink.call, SimulatedLink.disconnect, SimulatedLink.later, hb]
  have hmem : ⟨0, .hangUp⟩ ∈ (a.call .broker .disconnect).2.tasks := by simp [hr]
  obtain ⟨p, hp, htask⟩ := TaskClock.mem_schedule hmem a.clock
  refine ⟨p, ?_, htask⟩
  unfold follow
  rw [if_pos (by simp [hc])]
  exact List.mem_append_right _ hp

/-- **When a supervisor's deeds include the loss of the network, the end of a session that is up
becomes pending.** -/
theorem exists_hangUp_of_performAll (side : Side) {a : Agent} {acts : List Act}
    (hloss : ∃ act ∈ acts, isNetworkLoss side act.deed = true)
    (hc : a.broker.supervisor.state = .connected) (hb : a.broker.link.bound = true) :
    ∃ p ∈ (performAll side a acts).1.broker.pending, p.task = .hangUp := by
  induction acts generalizing a with
  | nil =>
    obtain ⟨act, hact, -⟩ := hloss
    exact absurd hact List.not_mem_nil
  | cons act acts ih =>
    have hcarries := carries_perform side a act
    obtain ⟨lost, hmem, hlost⟩ := hloss
    rcases List.mem_cons.mp hmem with rfl | hmem
    · -- the task is asked for now, and what comes later loses none
      have hnow : ∃ p ∈ (perform side a lost).1.broker.pending, p.task = .hangUp := by
        unfold perform
        split
        · next c hd => cases side <;> simp [hd, isNetworkLoss] at hlost
        · simp only [hlost, if_true]
          exact exists_hangUp_of_follow (a := { a with surroundings := _ }) lost.actor hc hb
      obtain ⟨p, hp, htask⟩ := hnow
      exact ⟨p, (carries_performAll side _ acts).pending p hp, htask⟩
    · have hc' : (perform side a act).1.broker.supervisor.state = .connected := by
        rw [hcarries.broker]
        exact hc
      exact ih (a := (perform side a act).1) ⟨lost, hmem, hlost⟩ hc' (hcarries.bound hb)

/-! ### Occurrences and runs -/

/-- Something that occurs. -/
inductive Occurrence
  | init (side : Side)
  | /-- A pending task of a link is carried out. -/
    fire (side : Side) (p : PendingTask)
  | /-- A reconnector makes the attempt that it has charged. -/
    attempt (side : Side)
  | /-- A reconnector goes on until it rests. -/
    settle (side : Side) (isOver : Duration → Bool)
  | /-- A prober probes. -/
    check (side : Side)
  | stop (side : Side)
  | /-- It is a certain time. -/
    tick (now : Nat)

/-- The agent after something has occurred. -/
def occur (a : Agent) : Occurrence → Agent
  | .init side => (a.init side).1
  | .fire side p => (a.fire side p).1
  | .attempt side => (a.attempt side).1
  | .settle side isOver => (a.settle isOver side).1
  | .check side => (a.check side).1
  | .stop side => (a.stop side).1
  | .tick now => { a with clock.now := now }

/-- Whether something can occur: of the tasks only those that are pending. -/
def CanOccur (a : Agent) : Occurrence → Prop
  | .fire side p => p ∈ (a.on side).pending
  | _ => True

/-- The agent after a run. -/
def after (a : Agent) (os : List Occurrence) : Agent := os.foldl occur a

/-- In a run each occurrence can occur when its turn comes. -/
def IsRun : Agent → List Occurrence → Prop
  | _, [] => True
  | a, o :: os => a.CanOccur o ∧ IsRun (a.occur o) os

/-- In a run without occurrences nothing happens. -/
@[simp] theorem after_nil (a : Agent) : a.after [] = a := rfl

/-- The first occurrence of a run comes first. -/
@[simp] theorem after_cons (a : Agent) (o : Occurrence) (os : List Occurrence) :
    a.after (o :: os) = (a.occur o).after os := rfl

/-- A run in two parts goes through both. -/
@[simp] theorem after_append (a : Agent) (os ps : List Occurrence) :
    a.after (os ++ ps) = (a.after os).after ps := by
  simp [after]

/-- A run in two parts is a run, and then one from where the first has led. -/
theorem isRun_append {a : Agent} {os ps : List Occurrence} :
    IsRun a (os ++ ps) ↔ IsRun a os ∧ IsRun (a.after os) ps := by
  induction os generalizing a with
  | nil => simp [IsRun]
  | cons o os ih => simp [IsRun, ih, and_assoc]

/-! ### The frame of what occurs -/

/-- The supervisor on a side takes a step that leaves its link in its state. -/
theorem carries_supervise (a : Agent) (side : Side) {x : Supervisor × List Act}
    (hx : x.1.state = (a.on side).supervisor.state) : Carries a (a.supervise side x).1 := by
  have hput : Carries a (a.put { a.on side with supervisor := x.1 } side) := by
    cases side with
    | wifi => exact ⟨hx, rfl, fun _ hp => hp, id, fun _ hp => .inl hp⟩
    | broker => exact ⟨rfl, hx, fun _ hp => hp, id, fun _ hp => .inl hp⟩
  exact hput.trans (carries_performAll side _ x.2)

/-- **Whatever occurs except that a task is carried out, no link moves and no task is lost.** -/
theorem carries_occur (a : Agent) {o : Occurrence} (ho : ∀ side p, o ≠ .fire side p) :
    Carries a (a.occur o) := by
  cases o with
  | init side => exact carries_supervise a side (Supervisor.state_init_returns _ _)
  | fire side p => exact absurd rfl (ho side p)
  | attempt side => exact carries_supervise a side (Supervisor.state_attempt_returns _ _)
  | settle side isOver => exact carries_supervise a side (Supervisor.state_settle _ isOver)
  | check side => exact carries_supervise a side (Supervisor.state_check_returns _ _ _)
  | stop side => exact carries_supervise a side (Supervisor.state_stop_returns _ _)
  | tick now => exact ⟨rfl, rfl, fun _ hp => hp, id, fun _ hp => .inl hp⟩

end Agent

/-- The link on a side when one of its tasks has been carried out, before anything is done about
it. -/
def SupervisedLink.fired (s : SupervisedLink) (p : PendingTask) : SupervisedLink :=
  let r := s.link.fire p.task
  let t := { s.take p with link := r.link }
  match r.event with
  | none => t
  | some e => { t with supervisor := (t.handle e).1 }

namespace SupervisedLink

/-- Only a task that delivers an event moves the link. -/
theorem state_fired_of_none {s : SupervisedLink} {p : PendingTask}
    (he : (s.link.fire p.task).event = none) :
    (s.fired p).supervisor.state = s.supervisor.state := by
  simp [fired, he, take]

/-- A task that delivers an event which the table ignores leaves the link in its state. -/
theorem state_fired_of_ignored {s : SupervisedLink} {p : PendingTask} {e : Event}
    (he : (s.link.fire p.task).event = some e) (hn : s.supervisor.state.next e = none) :
    (s.fired p).supervisor.state = s.supervisor.state := by
  simp only [fired, he]
  exact Supervisor.handle_returns_of_ignored _ s.supervisor .caller hn

/-- A task that delivers an event which the table accepts moves the link. -/
theorem state_fired_of_next {s : SupervisedLink} {p : PendingTask} {e : Event}
    (he : (s.link.fire p.task).event = some e) {m : Move}
    (hm : s.supervisor.state.next e = some m) : (s.fired p).supervisor.state = e.move.to := by
  simp only [fired, he]
  rw [← LinkState.eq_move_of_next hm]
  exact (Supervisor.handle_returns_of_next _ s.supervisor .caller hm).1

/-- A task that has been carried out does not change whether the link is bound. -/
@[simp] theorem bound_fired (s : SupervisedLink) (p : PendingTask) :
    (s.fired p).link.bound = s.link.bound := by
  unfold fired
  dsimp only
  split <;> simp

/-- The task that has been carried out is not pending any more, and the other ones still are. -/
@[simp] theorem pending_fired (s : SupervisedLink) (p : PendingTask) :
    (s.fired p).pending = s.pending.erase p := by
  unfold fired
  dsimp only
  split <;> rfl

end SupervisedLink

namespace Agent

/-- The agent when tasks have been asked for on a side. -/
def asked (a : Agent) (side : Side) (ds : List Delayed) : Agent :=
  { a.put ((a.on side).ask a.clock ds).1 side with clock := ((a.on side).ask a.clock ds).2 }

/-- To ask for tasks moves no link and loses no task. -/
theorem carries_asked (a : Agent) (side : Side) (ds : List Delayed)
    (hb : side = .broker → a.broker.link.bound = true) : Carries a (a.asked side ds) := by
  cases side with
  | wifi => exact ⟨rfl, rfl, fun _ hp => hp, id, fun _ hp => .inl hp⟩
  | broker =>
    exact ⟨rfl, rfl, fun p hp => List.mem_append_left _ hp, id, fun p _ => .inr (hb rfl)⟩

/-- A task that delivers no event. -/
theorem fire_of_none (a : Agent) (side : Side) (p : PendingTask)
    (he : ((a.on side).link.fire p.task).event = none) :
    (a.fire side p).1 =
      (a.put ((a.on side).fired p) side).asked side ((a.on side).link.fire p.task).tasks := by
  have he' : (((a.on side).take p).link.fire p.task).event = none := he
  simp only [fire, SupervisedLink.fired, he, he']
  rfl

/-- A task that delivers an event. -/
theorem fire_of_event (a : Agent) (side : Side) (p : PendingTask) {e : Event}
    (he : ((a.on side).link.fire p.task).event = some e) :
    (a.fire side p).1 =
      (performAll side (a.put ((a.on side).fired p) side)
        ((a.on side).supervisor.handle .caller e
          (((a.on side).link.fire p.task).link.reply .connect)).2.1).1.asked side
        ((a.on side).link.fire p.task).tasks := by
  have he' : (((a.on side).take p).link.fire p.task).event = some e := he
  simp only [fire, SupervisedLink.fired, he, he']
  cases side <;> rfl

/-- **After a task has been carried out, no link moves and no other task is lost.** -/
theorem carries_fire (a : Agent) (side : Side) (p : PendingTask)
    (hb : side = .broker → a.broker.link.bound = true) :
    Carries (a.put ((a.on side).fired p) side) (a.fire side p).1 := by
  have hb' : side = .broker → (a.put ((a.on side).fired p) side).broker.link.bound = true := by
    rintro rfl
    simpa [put, on] using hb rfl
  cases he : ((a.on side).link.fire p.task).event with
  | none =>
    rw [fire_of_none a side p he]
    exact carries_asked _ side _ hb'
  | some e =>
    rw [fire_of_event a side p he]
    have hperformed := carries_performAll side (a.put ((a.on side).fired p) side)
      ((a.on side).supervisor.handle .caller e
        (((a.on side).link.fire p.task).link.reply .connect)).2.1
    exact hperformed.trans (carries_asked _ side _ fun h => hperformed.bound (hb' h))

end Agent

end LinkWarden

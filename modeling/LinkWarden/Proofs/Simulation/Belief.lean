import LinkWarden.Proofs.Agent.Run
import Mathlib.Logic.Relation

/-!
# What a supervisor believes about its link

A supervisor and its simulated link hold separate copies of the state of the link. They are kept
together by events, which may be late: attempts overlap, failures of earlier ones arrive after
later ones have succeeded, and the end of a session is reported some time after the host has asked
for it.

* `Step` says what can happen to one supervised link, whoever calls it: the host calls the link, a
  worker of the supervisor goes on, or a pending task is carried out, any one of them. The link
  underneath may be up or down at each call, and no time is assumed.
* `Sober` is the invariant. A supervisor that takes a link for connected is right, or else the host
  has ended the session and the report is on its way.
* `up_or_hangUp_of_connected` is the invariant along every sequence of steps.
* `reaches_occur` says that whatever occurs to the agent is a sequence of such steps for each of its
  two links, so the invariant holds of them as well (`sober_after`).
-/

namespace LinkWarden

namespace SimulatedLink

/-- To ask for a task does not change the link. -/
theorem link_later (l : SimulatedLink) (delay : Nat) (task : LinkTask) :
    (l.later delay task).link = l := by
  unfold later
  split <;> rfl

/-- **What a call leaves alone**, apart from one that ends the session: it binds the link or counts
an attempt. -/
theorem call_frame (l : SimulatedLink) (carrierIsDown : Bool) {c : TransportCall}
    (hc : c ≠ .disconnect) :
    (l.call carrierIsDown c).link =
      { l with
        bound := (l.call carrierIsDown c).link.bound
        attempts := (l.call carrierIsDown c).link.attempts } := by
  cases c with
  | bind => rfl
  | start =>
    have hlink : l.start.link = l := by
      unfold start
      split
      · rfl
      · exact link_later l 0 .start
    simp only [call, hlink]
  | connect =>
    have hlink : (l.connect carrierIsDown).link = { l with attempts := l.attempts + 1 } := by
      unfold connect
      dsimp only
      split
      · split <;> exact link_later _ _ _
      · rfl
    simp only [call, hlink]
  | disconnect => exact absurd rfl hc
  | probe => rfl

/-- Only a call that ends the session takes a link down. -/
theorem up_call (l : SimulatedLink) (carrierIsDown : Bool) {c : TransportCall}
    (hc : c ≠ .disconnect) : (l.call carrierIsDown c).link.up = l.up := by
  rw [call_frame l carrierIsDown hc]

end SimulatedLink

namespace SupervisedLink

/-! ### Steps of one link -/

/-- A supervised link before anything has been done. -/
def fresh (id : String) (c : Supervision) (profile : LinkProfile) (behavior : LinkBehavior) :
    SupervisedLink :=
  { supervisor := .make id c, link := { profile, behavior } }

/-- The calls among some deeds are made. At each call the link underneath is up or down, and it is
any time. -/
inductive Does : SupervisedLink → List Act → SupervisedLink → Prop
  | nothing (s : SupervisedLink) : Does s [] s
  | call {s t : SupervisedLink} {a : Act} {acts : List Act} {c : TransportCall}
      (ha : a.deed = .calls c) (carrierIsDown : Bool) (clock : TaskClock)
      (h : Does (s.accept clock (s.link.call carrierIsDown c)).1 acts t) : Does s (a :: acts) t
  | other {s t : SupervisedLink} {a : Act} {acts : List Act} (ha : ∀ c, a.deed ≠ .calls c)
      (h : Does s acts t) : Does s (a :: acts) t

/-- What the caller and the workers of a supervisor do of their own accord. -/
inductive Work
  | init
  | charge
  | attempt
  | wake (timeIsOver : Bool)
  | settle (isOver : Duration → Bool)
  | check
  | requestStop
  | stop

/-- The supervisor after that, and what is to be done. -/
def work (s : SupervisedLink) : Work → Supervisor × List Act
  | .init => (s.init.1, s.init.2.1)
  | .charge => s.supervisor.charge
  | .attempt => s.attempt
  | .wake timeIsOver => s.supervisor.wake timeIsOver
  | .settle isOver => s.supervisor.settle isOver
  | .check => s.check
  | .requestStop => (s.supervisor.requestStop, [])
  | .stop => s.stop

/-- What is to be done when a pending task has been carried out. -/
def firedActs (s : SupervisedLink) (p : PendingTask) : List Act :=
  match (s.link.fire p.task).event with
  | none => []
  | some e => (s.supervisor.handle .caller e ((s.link.fire p.task).link.reply .connect)).2.1

/-- What can happen to a supervised link. -/
inductive Step : SupervisedLink → SupervisedLink → Prop
  | /-- The host calls the link. -/
    call (s : SupervisedLink) (c : TransportCall) (carrierIsDown : Bool) (clock : TaskClock) :
      Step s (s.accept clock (s.link.call carrierIsDown c)).1
  | work {s t : SupervisedLink} (w : Work)
      (h : Does { s with supervisor := (s.work w).1 } (s.work w).2 t) : Step s t
  | /-- A pending task is carried out, any one of them. -/
    fire {s t : SupervisedLink} {p : PendingTask} (hp : p ∈ s.pending)
      (h : Does (s.fired p) (s.firedActs p) t) (clock : TaskClock) :
      Step s (t.ask clock (s.link.fire p.task).tasks).1

/-- What a supervised link can come to. -/
def Reaches : SupervisedLink → SupervisedLink → Prop := Relation.ReflTransGen Step

/-! ### Sobriety -/

/-- The link is bound before anything comes of it. Where the supervisor takes it for connected, it
is up, or the report that the host has ended the session is on its way. -/
structure Sober (s : SupervisedLink) : Prop where
  pending : ∀ p ∈ s.pending, s.link.bound = true
  state : s.supervisor.state ≠ .notInitialized → s.link.bound = true
  belief : s.supervisor.state = .connected →
    s.link.up = true ∨ ∃ p ∈ s.pending, p.task = .hangUp

/-- A new supervisor believes nothing. -/
theorem sober_fresh (id : String) (c : Supervision) (profile : LinkProfile)
    (behavior : LinkBehavior) : Sober (fresh id c profile behavior) :=
  ⟨fun _ hp => absurd hp List.not_mem_nil, fun h => absurd rfl h, fun h => by cases h⟩

/-- The supervisor stays in its state and no task is lost. The link is asked for tasks only if it is
bound, and a bound one goes down only if the report of that becomes pending. -/
structure Keeps (s t : SupervisedLink) : Prop where
  state : t.supervisor.state = s.supervisor.state
  pending : ∀ p ∈ s.pending, p ∈ t.pending
  bound : s.link.bound = true → t.link.bound = true
  asked : ∀ p ∈ t.pending, p ∈ s.pending ∨ t.link.bound = true
  up : s.link.bound = true → s.link.up = true →
    t.link.up = true ∨ ∃ p ∈ t.pending, p.task = .hangUp

namespace Keeps

variable {s t u : SupervisedLink}

/-- A link that is left alone stays as it is. -/
theorem refl (s : SupervisedLink) : Keeps s s :=
  ⟨rfl, fun _ hp => hp, id, fun _ hp => .inl hp, fun _ h => .inl h⟩

/-- If the link goes down in the first step, the second one does not lose the report. -/
theorem trans (hst : Keeps s t) (htu : Keeps t u) : Keeps s u := by
  refine ⟨htu.state.trans hst.state, fun p hp => htu.pending p (hst.pending p hp),
    fun h => htu.bound (hst.bound h), ?_, ?_⟩
  · intro p hp
    rcases htu.asked p hp with hp | hb
    · rcases hst.asked p hp with hp | hb
      · exact .inl hp
      · exact .inr (htu.bound hb)
    · exact .inr hb
  · intro hb hup
    rcases hst.up hb hup with hup | ⟨p, hp, htask⟩
    · exact htu.up (hst.bound hb) hup
    · exact .inr ⟨p, htu.pending p hp, htask⟩

/-- What keeps to this leaves a sober supervisor sober. -/
theorem sober (h : Keeps s t) (hs : Sober s) : Sober t := by
  refine ⟨?_, ?_, ?_⟩
  · intro p hp
    rcases h.asked p hp with hp | hb
    · exact h.bound (hs.pending p hp)
    · exact hb
  · rw [h.state]
    exact fun hne => h.bound (hs.state hne)
  · rw [h.state]
    intro hc
    rcases hs.belief hc with hup | ⟨p, hp, htask⟩
    · exact h.up (hs.state (by rw [hc]; decide)) hup
    · exact .inr ⟨p, h.pending p hp, htask⟩

end Keeps

/-- A bound link may be asked for tasks. -/
theorem keeps_ask (s : SupervisedLink) (clock : TaskClock) (ds : List Delayed)
    (h : ds ≠ [] → s.link.bound = true) : Keeps s (s.ask clock ds).1 := by
  refine ⟨rfl, fun p hp => List.mem_append_left _ hp, id, ?_, fun _ hup => .inl hup⟩
  intro p hp
  rcases List.mem_append.mp hp with hp | hp
  · exact .inl hp
  · refine .inr (h ?_)
    rintro rfl
    exact List.not_mem_nil hp

/-- **A call on the link takes it down only if it asks for the report.** -/
theorem keeps_call (s : SupervisedLink) (clock : TaskClock) (carrierIsDown : Bool)
    (c : TransportCall) : Keeps s (s.accept clock (s.link.call carrierIsDown c)).1 := by
  have hfair := SimulatedLink.isFair_call s.link carrierIsDown c
  have hask := keeps_ask { s with link := (s.link.call carrierIsDown c).link } clock
    (s.link.call carrierIsDown c).tasks hfair.tasks
  refine ⟨rfl, hask.pending, hfair.bound, hask.asked, ?_⟩
  intro hb hup
  by_cases hc : c = .disconnect
  · subst hc
    have htasks : (s.link.call carrierIsDown .disconnect).tasks = [⟨0, .hangUp⟩] := by
      simp [SimulatedLink.call, SimulatedLink.disconnect, SimulatedLink.later, hb]
    obtain ⟨p, hp, htask⟩ := TaskClock.mem_schedule
      (htasks ▸ List.mem_singleton_self _ : ⟨0, .hangUp⟩ ∈ _) clock
    exact .inr ⟨p, List.mem_append_right _ hp, htask⟩
  · exact .inl ((SimulatedLink.up_call s.link carrierIsDown hc).trans hup)

/-- So do all the calls among some deeds. -/
theorem Does.keeps {s t : SupervisedLink} {acts : List Act} (h : Does s acts t) : Keeps s t := by
  induction h with
  | nothing s => exact .refl s
  | call ha carrierIsDown clock _ ih => exact (keeps_call _ clock carrierIsDown _).trans ih
  | other ha _ ih => exact ih

/-- The workers do not move the link, since no call delivers an event before it returns. -/
theorem state_work (s : SupervisedLink) (w : Work) : (s.work w).1.state = s.supervisor.state := by
  cases w with
  | init => exact Supervisor.state_init_returns _ _
  | charge => exact Supervisor.state_charge _
  | attempt => exact Supervisor.state_attempt_returns _ _
  | wake timeIsOver => exact Supervisor.state_wake _ timeIsOver
  | settle isOver => exact Supervisor.state_settle _ isOver
  | check => exact Supervisor.state_check_returns _ _ _
  | requestStop => rfl
  | stop => exact Supervisor.state_stop_returns _ _

/-! ### A task that is carried out -/

/-- After a report of a loss the supervisor does not take the link for connected. -/
theorem not_connected_of_lost {s : SupervisedLink} {p : PendingTask} {reason : Option String}
    (he : (s.link.fire p.task).event = some (.lost reason)) :
    (s.fired p).supervisor.state ≠ .connected := by
  intro hc
  cases hm : s.supervisor.state.next (.lost reason) with
  | none =>
    rw [state_fired_of_ignored he hm] at hc
    simp [hc, LinkState.next] at hm
  | some m =>
    rw [state_fired_of_next he hm] at hc
    simp [Event.move] at hc

/-- The start of the transport makes no link connected. -/
theorem state_fired_of_started {s : SupervisedLink} {p : PendingTask}
    (he : (s.link.fire p.task).event = some .started)
    (hc : (s.fired p).supervisor.state = .connected) : s.supervisor.state = .connected := by
  cases hm : s.supervisor.state.next .started with
  | none => exact (state_fired_of_ignored he hm).symm.trans hc
  | some m =>
    rw [state_fired_of_next he hm] at hc
    simp [Event.move] at hc

/-- A supervisor does nothing to the link itself when it is told of an event. -/
theorem link_fired (s : SupervisedLink) (p : PendingTask) :
    (s.fired p).link = (s.link.fire p.task).link := by
  unfold fired
  dsimp only
  split <;> rfl

/-- **A task that is carried out leaves the supervisor sober.** -/
theorem Sober.fired {s : SupervisedLink} (h : Sober s) {p : PendingTask} (hp : p ∈ s.pending) :
    Sober (s.fired p) := by
  have hb : (s.fired p).link.bound = true := by
    rw [bound_fired]
    exact h.pending p hp
  refine ⟨fun _ _ => hb, fun _ => hb, ?_⟩
  intro hc
  -- where the supervisor has been connected before, and the task is no report of a loss, the link
  -- is as it was or such a report is still pending
  have hsame : s.supervisor.state = .connected → (s.link.fire p.task).link.up = s.link.up →
      p.task ≠ .hangUp →
      (s.fired p).link.up = true ∨ ∃ q ∈ (s.fired p).pending, q.task = .hangUp := by
    intro hs hlink hne
    rcases h.belief hs with hup | ⟨q, hq, htask⟩
    · left
      rw [link_fired, hlink, hup]
    · refine .inr ⟨q, ?_, htask⟩
      rw [pending_fired]
      refine (List.mem_erase_of_ne ?_).mpr hq
      rintro rfl
      exact hne htask
  cases htask : p.task with
  | start =>
    have he : (s.link.fire p.task).event = some .started := by rw [htask]; rfl
    exact hsame (state_fired_of_started he hc) (by rw [htask]; rfl) (by rw [htask]; simp)
  | fail reason =>
    have he : (s.link.fire p.task).event = some (.lost (some reason)) := by rw [htask]; rfl
    exact absurd hc (not_connected_of_lost he)
  | complete detail =>
    left
    rw [link_fired, htask]
    rfl
  | hangUp =>
    have he : (s.link.fire p.task).event = some (.lost (some "disconnected by host")) := by
      rw [htask]; rfl
    exact absurd hc (not_connected_of_lost he)
  | silence session =>
    have hfire : (s.link.fire p.task).event = none ∧
        (s.link.fire p.task).link.up = s.link.up := by
      rw [htask]
      simp only [SimulatedLink.fire]
      split <;> exact ⟨rfl, rfl⟩
    exact hsame ((state_fired_of_none hfire.1).symm.trans hc) hfire.2 (by rw [htask]; simp)
  | expire session =>
    by_cases hsession : session = s.link.session
    · have he : (s.link.fire p.task).event = some (.lost (some "link dropped")) := by
        rw [htask]
        simp [SimulatedLink.fire, hsession]
      exact absurd hc (not_connected_of_lost he)
    · have hfire : s.link.fire p.task = { link := s.link } := by
        rw [htask]
        exact SimulatedLink.fire_expire_of_ne hsession
      have he : (s.link.fire p.task).event = none := by rw [hfire]
      exact hsame ((state_fired_of_none he).symm.trans hc) (by rw [hfire]) (by rw [htask]; simp)

/-! ### Every sequence of steps -/

/-- **No step makes a sober supervisor believe what is not so.** -/
theorem Sober.step {s t : SupervisedLink} (h : Sober s) (hst : Step s t) : Sober t := by
  cases hst with
  | call c carrierIsDown clock => exact (keeps_call s clock carrierIsDown c).sober h
  | work w hdoes =>
    have hput : Keeps s { s with supervisor := (s.work w).1 } :=
      ⟨state_work s w, fun _ hp => hp, id, fun _ hp => .inl hp, fun _ hup => .inl hup⟩
    exact (hput.trans hdoes.keeps).sober h
  | @fire u p hp hdoes clock =>
    have hfired := hdoes.keeps.sober (h.fired hp)
    refine (keeps_ask u clock _ fun _ => ?_).sober hfired
    exact hdoes.keeps.bound ((bound_fired s p).trans (h.pending p hp))

/-- **Whatever happens to a link, its supervisor stays sober.** -/
theorem Sober.reaches {s t : SupervisedLink} (h : Sober s) (hst : Reaches s t) : Sober t := by
  induction hst with
  | refl => exact h
  | tail _ hstep ih => exact ih.step hstep

end SupervisedLink

namespace Agent

open SupervisedLink (Does Reaches Sober)

/-! ### The links of the agent -/

/-- A link that is put on its side is there. -/
@[simp] theorem on_put (a : Agent) (s : SupervisedLink) (side : Side) :
    (a.put s side).on side = s := by
  cases side <;> rfl

/-- The link on the other side is as before. -/
theorem on_put_of_ne (a : Agent) (s : SupervisedLink) {side other : Side} (h : other ≠ side) :
    (a.put s side).on other = a.on other := by
  cases side <;> cases other <;> first | rfl | exact absurd rfl h

/-- Deeds on a side are done to the link there. -/
theorem does_performAll (side : Side) (a : Agent) (acts : List Act) :
    Does (a.on side) acts ((performAll side a acts).1.on side) := by
  induction acts generalizing a with
  | nil => exact .nothing _
  | cons act acts ih =>
    have hrest := ih (perform side a act).1
    cases hd : act.deed with
    | calls c =>
      have hon : (perform side a act).1.on side =
          ((a.on side).accept a.clock ((a.on side).link.call (a.carrierIsDown side) c)).1 := by
        unfold perform
        rw [hd]
        cases side <;> rfl
      rw [hon] at hrest
      exact .call hd (a.carrierIsDown side) a.clock hrest
    | _ =>
      -- what a loss of the network leads to is done to the other link
      have hon : (perform side a act).1.on side = a.on side := by
        unfold perform
        rw [hd]
        dsimp only
        split
        · next hloss =>
          cases side with
          | wifi =>
            unfold follow
            split <;> rfl
          | broker => cases hloss
        · cases side <;> rfl
      rw [hon] at hrest
      exact .other (by simp [hd]) hrest

/-- Deeds on a side do nothing to the other link but end its session. -/
theorem reaches_performAll_of_ne {side other : Side} (h : other ≠ side) (a : Agent)
    (acts : List Act) : Reaches (a.on other) ((performAll side a acts).1.on other) := by
  induction acts generalizing a with
  | nil => exact .refl
  | cons act acts ih =>
    refine Relation.ReflTransGen.trans ?_ (ih (perform side a act).1)
    unfold perform
    split
    · next c _ =>
      have hon : (a.call side c).1.on other = a.on other := on_put_of_ne a _ h
      exact hon ▸ Relation.ReflTransGen.refl
    · dsimp only
      split
      · next hloss =>
        -- the network is lost, so the other link is the session that runs over it
        cases side with
        | broker => cases hloss
        | wifi =>
          cases other with
          | wifi => exact absurd rfl h
          | broker =>
            unfold follow
            split
            · exact .single (.call _ .disconnect _ _)
            · exact .refl
      · cases other <;> exact .refl

/-- What a supervisor does of its own accord. -/
theorem reaches_work (a : Agent) (side other : Side) (w : SupervisedLink.Work) :
    Reaches (a.on other) ((a.supervise side ((a.on side).work w)).1.on other) := by
  by_cases h : other = side
  · subst h
    refine .single (.work w ?_)
    have hdoes := does_performAll other
      (a.put { a.on other with supervisor := ((a.on other).work w).1 } other)
      ((a.on other).work w).2
    rwa [on_put] at hdoes
  · have hother := reaches_performAll_of_ne h
      (a.put { a.on side with supervisor := ((a.on side).work w).1 } side) ((a.on side).work w).2
    rwa [on_put_of_ne a _ h] at hother

/-- A pending task that is carried out, with or without an event. -/
theorem fire_eq (a : Agent) (side : Side) (p : PendingTask) :
    (a.fire side p).1 =
      (performAll side (a.put ((a.on side).fired p) side) ((a.on side).firedActs p)).1.asked side
        ((a.on side).link.fire p.task).tasks := by
  cases he : ((a.on side).link.fire p.task).event with
  | none =>
    rw [fire_of_none a side p he, SupervisedLink.firedActs, he]
    rfl
  | some e =>
    rw [fire_of_event a side p he, SupervisedLink.firedActs, he]

/-- A task that is carried out is a step of its own link, and at most the end of a session for the
other one. -/
theorem reaches_fire (a : Agent) (side other : Side) {p : PendingTask}
    (hp : p ∈ (a.on side).pending) : Reaches (a.on other) ((a.fire side p).1.on other) := by
  rw [fire_eq]
  by_cases h : other = side
  · subst h
    have hdoes := does_performAll other (a.put ((a.on other).fired p) other)
      ((a.on other).firedActs p)
    rw [on_put] at hdoes
    have hstep := SupervisedLink.Step.fire hp hdoes (performAll other
      (a.put ((a.on other).fired p) other) ((a.on other).firedActs p)).1.clock
    cases other <;> exact .single hstep
  · have hother := reaches_performAll_of_ne h (a.put ((a.on side).fired p) side)
      ((a.on side).firedActs p)
    rw [on_put_of_ne a _ h] at hother
    cases side <;> cases other <;> first | exact hother | exact absurd rfl h

/-- **Whatever occurs to the agent, each of its links goes through steps of a supervised link.** -/
theorem reaches_occur (a : Agent) {o : Occurrence} (ho : a.CanOccur o) (side : Side) :
    Reaches (a.on side) ((a.occur o).on side) := by
  cases o with
  | init here => exact reaches_work a here side .init
  | fire here p => exact reaches_fire a here side ho
  | attempt here => exact reaches_work a here side .attempt
  | settle here isOver => exact reaches_work a here side (.settle isOver)
  | check here => exact reaches_work a here side .check
  | stop here => exact reaches_work a here side .stop
  | tick now => cases side <;> exact .refl

/-- So does every run of the agent. -/
theorem reaches_after {a : Agent} {os : List Occurrence} (h : IsRun a os) (side : Side) :
    Reaches (a.on side) ((a.after os).on side) := by
  induction os generalizing a with
  | nil => exact .refl
  | cons o os ih => exact (reaches_occur a h.1 side).trans (ih h.2)

/-- **Both supervisors of the agent are sober at all times.** -/
theorem sober_after (c : Settings) {os : List Occurrence} (h : IsRun (ofSettings c) os)
    (side : Side) : Sober (((ofSettings c).after os).on side) := by
  refine Sober.reaches ?_ (reaches_after h side)
  cases side with
  | wifi => exact SupervisedLink.sober_fresh _ _ _ _
  | broker => exact SupervisedLink.sober_fresh _ _ _ _

end Agent

namespace SupervisedLink

/-! ### Dead links -/

/-- **A supervisor never takes a dead link for connected.** If the link is down although its
supervisor takes it for connected, the host has ended the session, and the report of that has not
been delivered yet. -/
theorem up_or_hangUp_of_connected (id : String) (c : Supervision) (profile : LinkProfile)
    (behavior : LinkBehavior) {s : SupervisedLink} (hs : Reaches (fresh id c profile behavior) s)
    (hc : s.supervisor.state = .connected) :
    s.link.up = true ∨ ∃ p ∈ s.pending, p.task = .hangUp :=
  ((sober_fresh id c profile behavior).reaches hs).belief hc

/-- Settings for a network and a broker. -/
def homeNetwork : Settings := {
  wifi := { ssid := "home-ap", password := "password1" }
  broker := { host := "broker.local" } }

/-- The network starts, and the first attempt succeeds. -/
def firstAttempt : List Agent.Occurrence := [
  .init .wifi,
  .fire .wifi { task := .start, due := 0, order := 0 },
  .tick 300,
  .fire .wifi {
    task := .complete ((LinkProfile.wifi homeNetwork.wifi).detail 1), due := 300, order := 1 }]

/-- The host ends a session, and the supervisor still takes the link for connected: the report is
pending. -/
theorem hangUp_of_ended :
    ∃ s, Reaches (fresh Side.wifi.id homeNetwork.supervision (.wifi homeNetwork.wifi)
        homeNetwork.simulation.wifi) s ∧
      s.supervisor.state = .connected ∧ s.link.up = false ∧
      ∃ p ∈ s.pending, p.task = .hangUp := by
  have hrun : Agent.IsRun (Agent.ofSettings homeNetwork) firstAttempt :=
    ⟨trivial, List.mem_cons_self, trivial, List.mem_cons_self, trivial⟩
  have hreaches : Reaches ((Agent.ofSettings homeNetwork).on .wifi) _ :=
    (Agent.reaches_after hrun .wifi).tail (.call _ .disconnect false {})
  refine ⟨_, hreaches, rfl, rfl, ?_⟩
  exact (up_or_hangUp_of_connected _ _ _ _ hreaches rfl).resolve_left (by decide)

end SupervisedLink

end LinkWarden

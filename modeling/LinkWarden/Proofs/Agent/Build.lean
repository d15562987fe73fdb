import LinkWarden.Agent.Autopilot
import LinkWarden.Proofs.Simulation.Belief
import LinkWarden.Proofs.Supervisor.Launch

/-!
# What an agent is built with stays

A link keeps the credentials that it was made with, and the history its capacity, whatever occurs
to the agent. So whether a supervisor can be initialised is settled by the settings alone.

* `SameBuild` is the frame: what was built in at the start is the same. `sameBuild_after` says so of
  everything that occurs.
* `SupervisedLink.init_of_check`: a link with credentials that can be used refuses no start, so an
  initialisation is refused only where it is not the first one.
* `init_after_of_check` and `start_of_check` say this of the agent and of the autopilot.
-/

namespace LinkWarden

/-! ### Links -/

namespace SimulatedLink

variable (l : SimulatedLink)

/-- A call leaves the credentials of a link alone. -/
@[simp] theorem profile_call (carrierIsDown : Bool) (c : TransportCall) :
    (l.call carrierIsDown c).link.profile = l.profile := by
  by_cases hc : c = .disconnect
  · subst hc
    show l.disconnect.link.profile = l.profile
    rw [disconnect, link_later]
  · rw [call_frame l carrierIsDown hc]

/-- A task that is carried out leaves the credentials of a link alone. -/
@[simp] theorem profile_fire (t : LinkTask) : (l.fire t).link.profile = l.profile := by
  cases t <;> simp only [fire] <;> split <;> rfl

variable {l}

/-- **A bound link with credentials that can be used starts.** -/
theorem start_of_check (hb : l.bound = true) (hc : l.profile.check = .ok ()) :
    l.start.result = .ok () := by
  simp [start, hc, later, hb]

end SimulatedLink

namespace SupervisedLink

variable {s : SupervisedLink}

/-- The start of a link with credentials that can be used delivers nothing and succeeds. -/
theorem reply_start_of_check (hc : s.link.profile.check = .ok ()) :
    s.link.bind.reply .start = .done :=
  congrArg Reply.returns (SimulatedLink.start_of_check (l := s.link.bind) rfl hc)

/-- The first initialisation succeeds. -/
theorem init_of_isFresh (hc : s.link.profile.check = .ok ()) (hf : s.supervisor.IsFresh) :
    s.init.2.2 = .ok () := by
  refine Ending.result_eq s.init_ne_died ?_
  rw [reply_start_of_check hc, Supervisor.init_of_started .done hf rfl]

/-- **An initialisation fails only if it is not the first one.** -/
theorem init_of_check (hc : s.link.profile.check = .ok ()) :
    s.init.2.2 = .ok () ∨ s.init.2.2 = .error (.alreadyInitialized s.supervisor.id) := by
  by_cases hf : s.supervisor.IsFresh
  · exact .inl (init_of_isFresh hc hf)
  · right
    refine Ending.result_eq s.init_ne_died ?_
    rw [Supervisor.init_of_refused _ hf]

end SupervisedLink

namespace Surroundings

/-- A history keeps its capacity. -/
theorem capacity_perform (id : String) (w : Surroundings) (a : Act) :
    (w.perform id a).1.history.map History.capacity = w.history.map History.capacity := by
  obtain ⟨actor, deed⟩ := a
  cases deed with
  | moves before after =>
    obtain ⟨history, sink, clock⟩ := w
    cases history with
    | none => rfl
    | some h => simp [perform, record]
  | _ => rfl

end Surroundings

namespace Agent

/-! ### The frame of what is built in -/

/-- Both links have the credentials that they had, and the history its capacity. -/
structure SameBuild (a b : Agent) : Prop where
  profile : ∀ side, (b.on side).link.profile = (a.on side).link.profile
  capacity : b.surroundings.history.map History.capacity =
    a.surroundings.history.map History.capacity

namespace SameBuild

/-- Nothing has changed in what was built in. -/
theorem refl (a : Agent) : SameBuild a a := ⟨fun _ => rfl, rfl⟩

/-- What was built in stays the same along two changes. -/
theorem trans {a b c : Agent} (hab : SameBuild a b) (hbc : SameBuild b c) : SameBuild a c :=
  ⟨fun side => (hbc.profile side).trans (hab.profile side), hbc.capacity.trans hab.capacity⟩

end SameBuild

/-- The link on a side is replaced by one with the same credentials. -/
theorem sameBuild_put (a : Agent) (s : SupervisedLink) (side : Side)
    (h : s.link.profile = (a.on side).link.profile) : SameBuild a (a.put s side) := by
  refine ⟨fun other => ?_, by cases side <;> rfl⟩
  by_cases ho : other = side
  · subst ho
    rw [on_put, h]
  · rw [on_put_of_ne a s ho]

/-- A call on a link changes nothing that was built in. -/
theorem sameBuild_call (a : Agent) (side : Side) (c : TransportCall) :
    SameBuild a (a.call side c).1 := by
  -- the call changes the link on its side and the clock
  have hput := sameBuild_put a
    ((a.on side).accept a.clock ((a.on side).link.call (a.carrierIsDown side) c)).1 side
    (SimulatedLink.profile_call _ _ c)
  cases side <;> exact ⟨hput.profile, hput.capacity⟩

/-- Nor does the end of a session that follows the loss of the network. -/
theorem sameBuild_follow (a : Agent) (actor : Actor) : SameBuild a (a.follow actor).1 := by
  unfold follow
  split
  · exact sameBuild_call a .broker .disconnect
  · exact .refl a

/-- Whatever a supervisor does, what was built in stays the same. -/
theorem sameBuild_perform (side : Side) (a : Agent) (act : Act) :
    SameBuild a (perform side a act).1 := by
  unfold perform
  split
  · exact sameBuild_call a side _
  · dsimp only
    have hperformed : SameBuild a
        { a with surroundings := (a.surroundings.perform side.id act).1 } :=
      ⟨fun other => by cases other <;> rfl, Surroundings.capacity_perform _ _ _⟩
    split
    · exact hperformed.trans (sameBuild_follow _ act.actor)
    · exact hperformed

/-- So it does with all that a supervisor does in a step. -/
theorem sameBuild_performAll (side : Side) (a : Agent) (acts : List Act) :
    SameBuild a (performAll side a acts).1 := by
  induction acts generalizing a with
  | nil => exact .refl a
  | cons act acts ih => exact (sameBuild_perform side a act).trans (ih _)

/-- A step of a supervisor changes nothing that was built in. -/
theorem sameBuild_supervise (a : Agent) (side : Side) (x : Supervisor × List Act) :
    SameBuild a (a.supervise side x).1 := by
  have hput := sameBuild_put a { a.on side with supervisor := x.1 } side rfl
  exact hput.trans (sameBuild_performAll side _ x.2)

/-- To ask for tasks changes nothing that was built in. -/
theorem sameBuild_asked (a : Agent) (side : Side) (ds : List Delayed) :
    SameBuild a (a.asked side ds) := by
  have hput := sameBuild_put a ((a.on side).ask a.clock ds).1 side rfl
  cases side <;> exact ⟨hput.profile, hput.capacity⟩

/-- A task that is carried out changes nothing that was built in. -/
theorem sameBuild_fire (a : Agent) (side : Side) (p : PendingTask) :
    SameBuild a (a.fire side p).1 := by
  have hfired : ((a.on side).fired p).link.profile = (a.on side).link.profile := by
    rw [SupervisedLink.link_fired, SimulatedLink.profile_fire]
  rw [fire_eq]
  exact ((sameBuild_put a _ side hfired).trans (sameBuild_performAll side _ _)).trans
    (sameBuild_asked _ side _)

/-- **Whatever occurs, what was built in stays.** -/
theorem sameBuild_occur (a : Agent) (o : Occurrence) : SameBuild a (a.occur o) := by
  cases o with
  | init side => exact sameBuild_supervise a side _
  | fire side p => exact sameBuild_fire a side p
  | attempt side => exact sameBuild_supervise a side _
  | settle side isOver => exact sameBuild_supervise a side _
  | check side => exact sameBuild_supervise a side _
  | stop side => exact sameBuild_supervise a side _
  | tick now => exact ⟨fun side => by cases side <;> rfl, rfl⟩

/-- **In a run of the agent nothing changes that was built in.** -/
theorem sameBuild_after (a : Agent) (os : List Occurrence) : SameBuild a (a.after os) := by
  induction os generalizing a with
  | nil => exact .refl a
  | cons o os ih => exact (sameBuild_occur a o).trans (ih _)

/-! ### Initialisations -/

/-- **In every run an initialisation fails only if it is not the first one**, where the credentials
can be used. -/
theorem init_after_of_check {a : Agent} {side : Side}
    (hc : (a.on side).link.profile.check = .ok ()) (os : List Occurrence) :
    ((a.after os).init side).2.1 = .ok () ∨ ((a.after os).init side).2.1 =
      .error (.alreadyInitialized ((a.after os).on side).supervisor.id) := by
  have hafter : ((a.after os).on side).link.profile.check = .ok () := by
    rw [(sameBuild_after a os).profile side, hc]
  exact SupervisedLink.init_of_check hafter

/-- A call on a link leaves both supervisors alone. -/
theorem supervisor_call (a : Agent) (side other : Side) (c : TransportCall) :
    ((a.call side c).1.on other).supervisor = (a.on other).supervisor := by
  cases side <;> cases other <;> rfl

/-- What a supervisor does is done around the supervisors, and leaves both of them alone. -/
theorem supervisor_perform (side other : Side) (a : Agent) (act : Act) :
    ((perform side a act).1.on other).supervisor = (a.on other).supervisor := by
  unfold perform
  split
  · exact supervisor_call a side other _
  · dsimp only
    split
    · unfold follow
      split
      · exact (supervisor_call _ .broker other .disconnect).trans (by cases other <;> rfl)
      · cases other <;> rfl
    · cases other <;> rfl

/-- What is done about deeds is done to the links, not to their supervisors. -/
theorem supervisor_performAll (side other : Side) (a : Agent) (acts : List Act) :
    ((performAll side a acts).1.on other).supervisor = (a.on other).supervisor := by
  induction acts generalizing a with
  | nil => rfl
  | cons act acts ih => exact (ih _).trans (supervisor_perform side other a act)

end Agent

namespace Autopilot

/-- **The autopilot starts**, where the credentials of both links can be used. -/
theorem start_of_check {s : Settings} (hw : s.wifi.check = .ok ()) (hb : s.broker.check = .ok ()) :
    (start s).2.1 = .ok () := by
  let p : Autopilot := { agent := .ofSettings s }
  have hwifi : (p.launch .wifi).2.1 = .ok () :=
    SupervisedLink.init_of_isFresh (s := p.agent.wifi) hw ⟨rfl, rfl⟩
  -- the broker's supervisor has had nothing to do with the network's initialisation
  have hsame : (((p.launch .wifi).1).agent.on .broker).supervisor =
      (p.agent.on .broker).supervisor := by
    have hdeeds := Agent.supervisor_performAll .wifi .broker
      (p.agent.put { p.agent.on .wifi with supervisor := (p.agent.on .wifi).init.1 } .wifi)
      (p.agent.on .wifi).init.2.1
    exact hdeeds
  have hprofile : (((p.launch .wifi).1).agent.on .broker).link.profile = .broker s.broker :=
    (Agent.sameBuild_occur p.agent (.init .wifi)).profile .broker
  have hbroker : ((p.launch .wifi).1.launch .broker).2.1 = .ok () := by
    apply SupervisedLink.init_of_isFresh
    · rw [hprofile]
      exact hb
    · rw [hsame]
      exact ⟨rfl, rfl⟩
  rcases hx : p.launch .wifi with ⟨q, result, first⟩
  rw [hx] at hwifi hbroker
  obtain rfl : result = .ok () := hwifi
  simp only [start, p, hx]
  exact hbroker

end Autopilot

end LinkWarden

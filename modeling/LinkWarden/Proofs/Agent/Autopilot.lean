import LinkWarden.Agent.Autopilot
import LinkWarden.Proofs.Agent.Session

/-!
# The autopilot makes runs

All that the autopilot does is a run of its agent, so what holds of every run holds of the program.

* `leads_steps`: from the start through any steps, at any times, there is a run that leads to the
  agent.
* `exists_completesLate_of_outlives`: a session of the autopilot outlives the network only after an
  attempt to open it has completed while the network was down.
-/

namespace LinkWarden

namespace Agent

/-- Some run leads from one agent to another. -/
def Leads (a b : Agent) : Prop := ∃ os, IsRun a os ∧ a.after os = b

namespace Leads

/-- The run without occurrences leads nowhere else. -/
theorem refl (a : Agent) : Leads a a := ⟨[], trivial, rfl⟩

/-- Runs can be put one after another. -/
theorem trans {a b c : Agent} (hab : Leads a b) (hbc : Leads b c) : Leads a c := by
  obtain ⟨os, hos, rfl⟩ := hab
  obtain ⟨ps, hps, rfl⟩ := hbc
  exact ⟨os ++ ps, isRun_append.mpr ⟨hos, hps⟩, after_append a os ps⟩

/-- What can occur is a run by itself. -/
theorem occur {a : Agent} {o : Occurrence} (h : a.CanOccur o) : Leads a (a.occur o) :=
  ⟨[o], ⟨h, trivial⟩, rfl⟩

end Leads

/-! ### Tasks that are due -/

/-- A task that is due is pending. -/
theorem mem_pending_of_due? {a : Agent} {side : Side} {p : PendingTask}
    (h : a.due? = some (side, p)) : p ∈ (a.on side).pending := by
  have hmem : ∀ {s : SupervisedLink} {now : Nat} {q : PendingTask}, s.due? now = some q →
      q ∈ s.pending := by
    intro s now q hq
    exact PendingTask.mem_of_first?_eq_some (Option.filter_eq_some_iff.mp hq).1
  unfold due? at h
  split at h
  · cases h
  · next hw _ =>
    cases h
    exact hmem hw
  · next hb =>
    cases h
    exact hmem hb
  · next hw hb =>
    split at h
    · cases h
      exact hmem hb
    · cases h
      exact hmem hw

/-- To carry out the tasks that are due is a run. -/
theorem leads_runDue (fuel : Nat) (a : Agent) : Leads a (runDue fuel a).1 := by
  induction fuel generalizing a with
  | zero => exact .refl a
  | succ fuel ih =>
    unfold runDue
    split
    · exact .refl a
    · next side p h =>
      have hfire : Leads a (a.fire side p).1 :=
        Leads.occur (o := .fire side p) (mem_pending_of_due? h)
      exact hfire.trans (ih _)

end Agent

namespace Autopilot

open Agent (Leads)

/-- When the times of the workers are set, the agent stays as it is. -/
@[simp] theorem agent_putTimes (p : Autopilot) (t : WorkerTimes) (side : Side) :
    (p.putTimes t side).agent = p.agent := by
  cases side <;> rfl

/-! ### The work of one moment -/

/-- What a reconnector does at a moment is a run: it goes on, and makes the attempt that it has
charged. -/
theorem leads_reconnect (p : Autopilot) (side : Side) :
    Leads p.agent (p.reconnect side).1.agent := by
  have hsettle : ∀ isOver, Leads p.agent (p.agent.settle isOver side).1 := fun isOver =>
    Leads.occur (o := .settle side isOver) trivial
  unfold reconnect
  dsimp only
  split
  · simp only [agent_putTimes]
    exact (hsettle _).trans (Leads.occur (o := .attempt side) trivial)
  · exact hsettle _

/-- What a prober does at a moment is a run. -/
theorem leads_probe (p : Autopilot) (side : Side) : Leads p.agent (p.probe side).1.agent := by
  unfold probe
  dsimp only
  split
  · split
    · simp only [agent_putTimes]
      exact Leads.occur (o := .check side) trivial
    · exact .refl _
  · exact .refl _

/-- Works that are runs each are one when they are done in turn. -/
theorem leads_doAll {works : List (Autopilot → Autopilot × List Sighting)}
    (h : ∀ work ∈ works, ∀ p, Leads p.agent (work p).1.agent) (p : Autopilot) :
    Leads p.agent (doAll works p).1.agent := by
  induction works generalizing p with
  | nil => exact .refl _
  | cons work works ih =>
    have hwork := h work List.mem_cons_self p
    exact hwork.trans (ih (fun w hw => h w (List.mem_cons_of_mem work hw)) _)

/-- **What the autopilot does at one time is a run.** -/
theorem leads_step (now : Nat) (p : Autopilot) : Leads p.agent (p.step now).1.agent := by
  have htick : Leads p.agent { p.agent with clock.now := now } :=
    Leads.occur (o := .tick now) trivial
  refine htick.trans (leads_doAll ?_ { p with agent.clock.now := now })
  intro work hwork q
  simp only [List.mem_cons, List.not_mem_nil, or_false] at hwork
  rcases hwork with rfl | rfl | rfl | rfl | rfl
  · exact Agent.leads_runDue q.agent.dueBound q.agent
  · exact leads_reconnect q .wifi
  · exact leads_reconnect q .broker
  · exact leads_probe q .wifi
  · exact leads_probe q .broker

/-- To initialise a supervisor and let its prober begin is a run. -/
theorem leads_launch (p : Autopilot) (side : Side) : Leads p.agent (p.launch side).1.agent := by
  unfold launch
  simp only [agent_putTimes]
  exact Leads.occur (o := .init side) trivial

/-- What is done at the start is a run of the agent that the settings describe. -/
theorem leads_start (c : Settings) : Leads (.ofSettings c) (start c).1.agent := by
  have hwifi := leads_launch { agent := .ofSettings c } .wifi
  unfold start
  dsimp only
  split
  · exact hwifi
  · exact hwifi.trans (leads_launch _ .broker)

/-! ### Any number of moments -/

/-- The autopilot after its work at each of these times. -/
def steps (p : Autopilot) (times : List Nat) : Autopilot :=
  times.foldl (fun p now => (p.step now).1) p

/-- **What the autopilot does from its start is a run.** -/
theorem leads_steps (c : Settings) (times : List Nat) :
    Leads (.ofSettings c) ((start c).1.steps times).agent := by
  have h : ∀ p : Autopilot, Leads p.agent (p.steps times).agent := by
    induction times with
    | nil => exact fun p => .refl _
    | cons now times ih => exact fun p => (leads_step now p).trans (ih _)
  exact (leads_start c).trans (h _)

/-- If a session of the autopilot outlives the network, an attempt to open it has completed while
the network was down. -/
theorem exists_completesLate_of_outlives (c : Settings) (times : List Nat)
    (h : ((start c).1.steps times).agent.Outlives) :
    ∃ os ps o qs, Agent.IsRun (.ofSettings c) os ∧
      (Agent.ofSettings c).after os = ((start c).1.steps times).agent ∧
      os = ps ++ o :: qs ∧ ((Agent.ofSettings c).after ps).CompletesLate o := by
  obtain ⟨os, hos, hafter⟩ := leads_steps c times
  have hn : ¬ (Agent.ofSettings c).Outlives := fun h' => by cases h'.network
  obtain ⟨ps, o, qs, heq, hlate⟩ :=
    (Agent.exists_outlives_iff_of_wired (Agent.wired_ofSettings c) hn hos).mp
      ⟨os, [], by simp, by rw [hafter]; exact h⟩
  exact ⟨os, ps, o, qs, hos, hafter, heq, hlate⟩

end Autopilot

end LinkWarden

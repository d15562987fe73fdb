import LinkWarden.Proofs.Agent.Run

/-!
# Sessions that outlive the network

The agent ends the session at the broker when the network is lost. It does so only if the session is
up at that moment. An attempt to open a session that has begun before and is still on its way is not
called off, and the network is not looked at again when it completes.

* `Outlives` says that the session is up although the network is down, and that nothing on its way
  will end it.
* `outlives_occur_iff` says what brings this about: the completion of an attempt while the network
  is down (`CompletesLate`), and nothing else.
* `exists_outlives_iff` is the same for a run.
-/

namespace LinkWarden

/-- Whether a task reports that a link is lost. A session that is to drop at some later time is not
on its way to be lost yet. -/
def LinkTask.isLoss : LinkTask → Bool
  | .fail _ => true
  | .hangUp => true
  | _ => false

namespace SimulatedLink

/-- Only an attempt that completes reports that a link is up. -/
theorem eq_complete_of_fire {l : SimulatedLink} {t : LinkTask} {detail : Option String}
    (h : (l.fire t).event = some (.established detail)) : ∃ text, t = .complete text := by
  cases t with
  | complete text => exact ⟨text, rfl⟩
  | start => simp [fire] at h
  | fail reason => simp [fire] at h
  | hangUp => simp [fire] at h
  | silence session =>
    simp only [fire] at h
    split at h <;> simp at h
  | expire session =>
    simp only [fire] at h
    split at h <;> simp at h

/-- A task that reports a loss does deliver it. -/
theorem event_fire_of_isLoss (l : SimulatedLink) {t : LinkTask} (h : t.isLoss = true) :
    ∃ reason, (l.fire t).event = some (.lost reason) := by
  cases t with
  | fail reason => exact ⟨_, rfl⟩
  | hangUp => exact ⟨_, rfl⟩
  | _ => cases h

/-- The tasks that a session asks for when it is up report no loss. -/
theorem isLoss_of_mem_fire {l : SimulatedLink} {t : LinkTask} {d : Delayed}
    (h : d ∈ (l.fire t).tasks) : d.task.isLoss = false := by
  have htimer : ∀ ms task, task.isLoss = false → d ∈ timer ms task → d.task.isLoss = false := by
    intro ms task htask hd
    unfold timer at hd
    split at hd
    · exact absurd hd List.not_mem_nil
    · rw [List.mem_singleton.mp hd]
      exact htask
  cases t with
  | complete detail =>
    rcases List.mem_append.mp h with h | h
    · exact htimer _ _ rfl h
    · exact htimer _ _ rfl h
  | start => exact absurd h List.not_mem_nil
  | fail reason => exact absurd h List.not_mem_nil
  | hangUp => exact absurd h List.not_mem_nil
  | silence session =>
    simp only [fire] at h
    split at h <;> exact absurd h List.not_mem_nil
  | expire session =>
    simp only [fire] at h
    split at h <;> exact absurd h List.not_mem_nil

end SimulatedLink

namespace Agent

/-! ### Outliving the network -/

/-- The session is up although the network is down, and no report of its loss is on its way. -/
structure Outlives (a : Agent) : Prop where
  network : a.wifi.supervisor.state = .disconnected
  session : a.broker.supervisor.state = .connected
  quiet : ∀ p ∈ a.broker.pending, p.task.isLoss = false

/-- An attempt to open a session completes while the network is down, and no report of a loss is on
its way. -/
structure CompletesLate (a : Agent) (o : Occurrence) : Prop where
  completes : ∃ p detail, o = .fire .broker p ∧ p.task = .complete detail
  network : a.wifi.supervisor.state = .disconnected
  session : a.broker.supervisor.state = .connecting ∨ a.broker.supervisor.state = .disconnected
  quiet : ∀ p ∈ a.broker.pending, p.task.isLoss = false

/-! ### The link of the broker is bound -/

/-- The link of the broker is bound before anything comes of it. -/
structure Wired (a : Agent) : Prop where
  pending : ∀ p ∈ a.broker.pending, a.broker.link.bound = true
  state : a.broker.supervisor.state ≠ .notInitialized → a.broker.link.bound = true

/-- At the start nothing has come of the link of the broker. -/
theorem wired_ofSettings (c : Settings) : Wired (ofSettings c) :=
  ⟨fun _ hp => absurd hp List.not_mem_nil, fun h => absurd rfl h⟩

namespace Carries

variable {a b : Agent}

/-- What only carries the tasks along keeps the link of the broker bound. -/
theorem wired (h : Carries a b) (hw : Wired a) : Wired b := by
  constructor
  · intro p hp
    rcases h.asked p hp with hp | hb
    · exact h.bound (hw.pending p hp)
    · exact hb
  · intro hs
    rw [h.broker] at hs
    exact h.bound (hw.state hs)

/-- A session that outlives the network has done so before. -/
theorem outlives (h : Carries a b) (hb : b.Outlives) : a.Outlives := by
  refine ⟨?_, ?_, fun p hp => hb.quiet p (h.pending p hp)⟩
  · rw [← h.wifi]
    exact hb.network
  · rw [← h.broker]
    exact hb.session

end Carries

/-- Where a task of the broker is pending, its link is bound. -/
theorem Wired.bound {a : Agent} (hw : Wired a) {side : Side} {p : PendingTask}
    (hp : p ∈ (a.on side).pending) : side = .broker → a.broker.link.bound = true := by
  rintro rfl
  exact hw.pending p hp

/-- A task that is carried out keeps the link of the broker bound. -/
theorem Wired.fire {a : Agent} (hw : Wired a) {side : Side} {p : PendingTask}
    (hp : p ∈ (a.on side).pending) : Wired (a.fire side p).1 := by
  refine (carries_fire a side p (hw.bound hp)).wired ?_
  cases side with
  | wifi => exact ⟨hw.pending, hw.state⟩
  | broker =>
    have hb : (a.broker.fired p).link.bound = true := by
      rw [SupervisedLink.bound_fired]
      exact hw.pending p hp
    exact ⟨fun _ _ => hb, fun _ => hb⟩

/-- **Whatever occurs, the link of the broker is bound before anything comes of it.** -/
theorem Wired.occur {a : Agent} (hw : Wired a) {o : Occurrence} (ho : a.CanOccur o) :
    Wired (a.occur o) := by
  by_cases hfire : ∃ side p, o = .fire side p
  · obtain ⟨side, p, rfl⟩ := hfire
    exact hw.fire ho
  · exact (carries_occur a fun side p h => hfire ⟨side, p, h⟩).wired hw

/-! ### A task of the network -/

/-- The loss of the network leaves no session up that is not about to be ended. -/
theorem not_outlives_of_loss {a : Agent} (hw : Wired a) {p : PendingTask} {e : Event} {m : Move}
    (he : (a.wifi.link.fire p.task).event = some e) (hm : a.wifi.supervisor.state.next e = some m)
    (hlost : m.to = .disconnected) : ¬ (a.fire .wifi p).1.Outlives := by
  intro ho
  have hsession : a.broker.supervisor.state = .connected := by
    rw [← ho.session]
    exact (carries_fire a .wifi p (fun h => Side.noConfusion h)).broker.symm
  have hb : a.broker.link.bound = true := hw.state (by simp [hsession])
  -- the move is among the deeds, so the end of the session has become pending
  have hmoves := (Supervisor.handle_returns_of_next
    ((a.wifi.link.fire p.task).link.call false .connect).result a.wifi.supervisor .caller hm).2
  rw [hlost] at hmoves
  obtain ⟨q, hq, htask⟩ := exists_hangUp_of_performAll .wifi
    (a := a.put ((a.on .wifi).fired p) .wifi) ⟨_, hmoves, rfl⟩ hsession hb
  have hquiet : q.task.isLoss = false := by
    refine ho.quiet q ?_
    rw [fire_of_event a .wifi p he]
    exact hq
  rw [htask] at hquiet
  cases hquiet

/-- A task of the network does not make a session outlive it. -/
theorem not_outlives_fire_wifi {a : Agent} (hw : Wired a) (hn : ¬ a.Outlives) (p : PendingTask) :
    ¬ (a.fire .wifi p).1.Outlives := by
  have hcarries := carries_fire a .wifi p fun h => Side.noConfusion h
  -- where the network does not move, the session would have outlived it before
  have hsame : (a.wifi.fired p).supervisor.state = a.wifi.supervisor.state →
      ¬ (a.fire .wifi p).1.Outlives := by
    intro hs ho
    have hput := hcarries.outlives ho
    exact hn ⟨hs.symm.trans hput.network, hput.session, hput.quiet⟩
  cases he : (a.wifi.link.fire p.task).event with
  | none => exact hsame (SupervisedLink.state_fired_of_none he)
  | some e =>
    cases hm : a.wifi.supervisor.state.next e with
    | none => exact hsame (SupervisedLink.state_fired_of_ignored he hm)
    | some m =>
      by_cases hlost : m.to = .disconnected
      · exact not_outlives_of_loss hw he hm hlost
      · intro ho
        have hnetwork := (hcarries.outlives ho).network
        have hto := SupervisedLink.state_fired_of_next he hm
        rw [← LinkState.eq_move_of_next hm] at hto
        exact hlost (hto.symm.trans hnetwork)

/-! ### A task of the broker -/

/-- A session that begins to outlive the network has been opened by an attempt that completes. -/
theorem completesLate_of_outlives {a : Agent} (hw : Wired a) (hn : ¬ a.Outlives) {p : PendingTask}
    (hp : p ∈ a.broker.pending) (ho : (a.fire .broker p).1.Outlives) :
    a.CompletesLate (.fire .broker p) := by
  obtain ⟨hnetwork, hsession, hquiet⟩ :=
    (carries_fire a .broker p fun _ => hw.pending p hp).outlives ho
  replace hnetwork : a.wifi.supervisor.state = .disconnected := hnetwork
  replace hsession : (a.broker.fired p).supervisor.state = .connected := hsession
  replace hquiet : ∀ q ∈ a.broker.pending.erase p, q.task.isLoss = false := by
    simpa [put, on] using hquiet
  -- the other tasks report no loss, so if this one does not either, none does
  have hall : p.task.isLoss = false → ∀ q ∈ a.broker.pending, q.task.isLoss = false := by
    intro hpq q hq
    by_cases hqp : q = p
    · rw [hqp]
      exact hpq
    · exact hquiet q ((List.mem_erase_of_ne hqp).mpr hq)
  -- a session that has been up before has not outlived the network, so a loss is on its way
  have hup : a.broker.supervisor.state = .connected → p.task.isLoss = true := by
    intro hs
    cases hl : p.task.isLoss with
    | true => rfl
    | false => exact absurd ⟨hnetwork, hs, hall hl⟩ hn
  have hlost : p.task.isLoss = true → False := by
    intro hl
    obtain ⟨reason, he⟩ := SimulatedLink.event_fire_of_isLoss a.broker.link hl
    cases hm : a.broker.supervisor.state.next (.lost reason) with
    | none =>
      rw [SupervisedLink.state_fired_of_ignored he hm] at hsession
      simp [hsession, LinkState.next] at hm
    | some m =>
      rw [SupervisedLink.state_fired_of_next he hm] at hsession
      simp [Event.move] at hsession
  have hdown : a.broker.supervisor.state ≠ .connected := fun hs => hlost (hup hs)
  cases he : (a.broker.link.fire p.task).event with
  | none => exact absurd ((SupervisedLink.state_fired_of_none he).symm.trans hsession) hdown
  | some e =>
    cases hm : a.broker.supervisor.state.next e with
    | none => exact absurd ((SupervisedLink.state_fired_of_ignored he hm).symm.trans hsession) hdown
    | some m =>
      rw [SupervisedLink.state_fired_of_next he hm] at hsession
      cases e with
      | started => simp [Event.move] at hsession
      | lost reason => simp [Event.move] at hsession
      | established detail =>
        obtain ⟨text, htask⟩ := SimulatedLink.eq_complete_of_fire he
        refine ⟨⟨p, text, rfl, htask⟩, hnetwork, ?_, hall (by rw [htask]; rfl)⟩
        cases hs : a.broker.supervisor.state with
        | notInitialized => simp [hs, LinkState.next] at hm
        | connected => exact absurd hs hdown
        | connecting => exact .inl rfl
        | disconnected => exact .inr rfl

/-- Deeds on the side of the broker that call no link leave both links alone. -/
theorem links_performAll_of_noCalls {a : Agent} {acts : List Act}
    (h : ∀ act ∈ acts, ∀ c, act.deed ≠ .calls c) :
    (performAll .broker a acts).1.wifi = a.wifi ∧
      (performAll .broker a acts).1.broker = a.broker := by
  induction acts generalizing a with
  | nil => exact ⟨rfl, rfl⟩
  | cons act acts ih =>
    have hone : (perform .broker a act).1.wifi = a.wifi ∧
        (perform .broker a act).1.broker = a.broker := by
      unfold perform
      split
      · next c hc => exact absurd hc (h act List.mem_cons_self c)
      · exact ⟨rfl, rfl⟩
    obtain ⟨hwifi, hbroker⟩ := ih (a := (perform .broker a act).1) fun b hb =>
      h b (List.mem_cons_of_mem act hb)
    exact ⟨hwifi.trans hone.1, hbroker.trans hone.2⟩

/-- An attempt that completes while the network is down opens a session that outlives it. -/
theorem outlives_of_completesLate {a : Agent} {o : Occurrence} (h : a.CompletesLate o) :
    (a.occur o).Outlives := by
  obtain ⟨⟨p, text, rfl, htask⟩, hnetwork, hsession, hquiet⟩ := h
  have he : (a.broker.link.fire p.task).event = some (.established (some text)) := by
    rw [htask]
    rfl
  obtain ⟨m, hm⟩ : ∃ m, a.broker.supervisor.state.next (.established (some text)) = some m := by
    rcases hsession with hs | hs <;> exact ⟨_, by rw [hs]; rfl⟩
  have hup : (a.broker.fired p).supervisor.state = .connected :=
    SupervisedLink.state_fired_of_next he hm
  have hacts : ∀ act ∈ (a.broker.supervisor.handle .caller (.established (some text))
      ((a.broker.link.fire p.task).link.reply .connect)).2.1, ∀ c, act.deed ≠ .calls c := by
    obtain rfl := LinkState.eq_move_of_next hm
    unfold Supervisor.handle
    rw [Supervisor.play_moved hm (by simp [Event.move])]
    simp [Reply.done, Supervisor.moveDeeds, Supervisor.note]
  obtain ⟨b, hfire, hwifi, hbroker⟩ : ∃ b : Agent,
      (a.fire .broker p).1 = b.asked .broker (a.broker.link.fire p.task).tasks ∧
        b.wifi = a.wifi ∧ b.broker = a.broker.fired p :=
    ⟨_, fire_of_event a .broker p he, links_performAll_of_noCalls hacts⟩
  show (a.fire .broker p).1.Outlives
  rw [hfire]
  refine ⟨?_, ?_, ?_⟩
  · show b.wifi.supervisor.state = .disconnected
    rw [hwifi]
    exact hnetwork
  · show b.broker.supervisor.state = .connected
    rw [hbroker]
    exact hup
  · intro q hq
    rcases List.mem_append.mp hq with hq | hq
    · replace hq : q ∈ b.broker.pending := hq
      rw [hbroker, SupervisedLink.pending_fired] at hq
      exact hquiet q (List.mem_of_mem_erase hq)
    · -- the tasks of the session that has been opened
      obtain ⟨d, hd, heq⟩ := TaskClock.mem_of_mem_schedule hq
      rw [heq]
      exact SimulatedLink.isLoss_of_mem_fire hd

/-! ### What makes a session outlive the network -/

/-- **A session begins to outlive the network exactly when an attempt to open it completes while the
network is down.** -/
theorem outlives_occur_iff {a : Agent} (hw : Wired a) (hn : ¬ a.Outlives) {o : Occurrence}
    (ho : a.CanOccur o) : (a.occur o).Outlives ↔ a.CompletesLate o := by
  constructor
  · intro h
    by_cases hfire : ∃ side p, o = .fire side p
    · obtain ⟨side, p, rfl⟩ := hfire
      cases side with
      | wifi => exact absurd h (not_outlives_fire_wifi hw hn p)
      | broker => exact completesLate_of_outlives hw hn ho h
    · exact absurd ((carries_occur a fun side p h => hfire ⟨side, p, h⟩).outlives h) hn
  · exact outlives_of_completesLate

/-- The same for a run from an agent whose session does not outlive the network. -/
theorem exists_outlives_iff_of_wired {a : Agent} (hw : Wired a) (hn : ¬ a.Outlives)
    {os : List Occurrence} (h : IsRun a os) :
    (∃ ps qs, os = ps ++ qs ∧ (a.after ps).Outlives) ↔
      ∃ ps o qs, os = ps ++ o :: qs ∧ (a.after ps).CompletesLate o := by
  constructor
  · rintro ⟨ps, qs, rfl, ho⟩
    induction ps generalizing a with
    | nil => exact absurd ho hn
    | cons o ps ih =>
      by_cases hlate : a.CompletesLate o
      · exact ⟨[], o, ps ++ qs, rfl, hlate⟩
      · have hn' : ¬ (a.occur o).Outlives := fun h' => hlate ((outlives_occur_iff hw hn h.1).mp h')
        obtain ⟨before, late, later, heq, hcompletes⟩ := ih (hw.occur h.1) hn' ho h.2
        have hcons : o :: ps ++ qs = o :: before ++ late :: later := by
          rw [List.cons_append, heq, List.cons_append]
        exact ⟨o :: before, late, later, hcons, hcompletes⟩
  · rintro ⟨ps, o, qs, rfl, hlate⟩
    refine ⟨ps ++ [o], qs, by simp, ?_⟩
    rw [after_append]
    exact outlives_of_completesLate hlate

/-- **In a run of the agent a session outlives the network at some time just if, at some time, an
attempt to open it completes while the network is down.** -/
theorem exists_outlives_iff (c : Settings) {os : List Occurrence} (h : IsRun (ofSettings c) os) :
    (∃ ps qs, os = ps ++ qs ∧ ((ofSettings c).after ps).Outlives) ↔
      ∃ ps o qs, os = ps ++ o :: qs ∧ ((ofSettings c).after ps).CompletesLate o :=
  exists_outlives_iff_of_wired (wired_ofSettings c) (fun h => by cases h.network) h

/-! ### A session that outlives the network -/

/-- A network that drops while a session is being opened over it. -/
def unsteadyNetwork : Settings := {
  wifi := { ssid := "home-ap", password := "password1" }
  broker := { host := "broker.local" }
  simulation := { wifi := { dropAfterMs := 100 }, broker := { connectLatencyMs := 200 } } }

/-- The network comes up, an attempt to open a session begins, the network drops, and the attempt
completes. -/
def lateOpening : List Occurrence := [
  .init .wifi,
  .fire .wifi { task := .start, due := 0, order := 0 },
  .tick 300,
  .fire .wifi {
    task := .complete ((LinkProfile.wifi unsteadyNetwork.wifi).detail 1), due := 300, order := 1 },
  .init .broker,
  .fire .broker { task := .start, due := 300, order := 3 },
  .tick 400,
  .fire .wifi { task := .expire 0, due := 400, order := 2 },
  .tick 500,
  .fire .broker {
    task := .complete ((LinkProfile.broker unsteadyNetwork.broker).detail 1), due := 500
    order := 4 }]

/-- The tasks of this run are pending when their turn comes. -/
theorem isRun_lateOpening : IsRun (ofSettings unsteadyNetwork) lateOpening :=
  ⟨trivial, List.mem_cons_self, trivial, List.mem_cons_self, trivial, List.mem_cons_self, trivial,
    List.mem_cons_self, trivial, List.mem_cons_self, trivial⟩

/-- The attempt is a late one, so a session outlives the network. -/
theorem exists_outlives_of_lateOpening :
    ∃ ps qs, lateOpening = ps ++ qs ∧ ((ofSettings unsteadyNetwork).after ps).Outlives := by
  refine (exists_outlives_iff unsteadyNetwork isRun_lateOpening).mpr
    ⟨lateOpening.take 9, _, [], rfl, ⟨_, _, rfl, rfl⟩, rfl, .inl rfl, ?_⟩
  intro p hp
  obtain rfl : p = _ := List.mem_singleton.mp hp
  rfl

/-- The attempt begins while the network is up. In the end the session is up, the network is down,
and nothing is pending that could end the session. -/
theorem outlives_lateOpening :
    IsRun (ofSettings unsteadyNetwork) lateOpening ∧
      ((ofSettings unsteadyNetwork).after (lateOpening.take 6)).wifi.supervisor.state = .connected ∧
      ((ofSettings unsteadyNetwork).after (lateOpening.take 6)).broker.supervisor.state =
        .connecting ∧
      ((ofSettings unsteadyNetwork).after lateOpening).Outlives ∧
      ((ofSettings unsteadyNetwork).after lateOpening).broker.pending = [] := by
  have hpending : ((ofSettings unsteadyNetwork).after lateOpening).broker.pending = [] := rfl
  refine ⟨isRun_lateOpening, rfl, rfl, ⟨rfl, rfl, ?_⟩, hpending⟩
  rw [hpending]
  exact fun p hp => absurd hp List.not_mem_nil

end Agent

end LinkWarden

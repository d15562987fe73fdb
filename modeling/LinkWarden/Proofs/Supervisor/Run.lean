import LinkWarden.Supervisor.Lifecycle

/-!
# Runs of a supervisor

A supervisor moves by steps: the transport delivers an event, the reconnector takes a turn or its
wait ends, the prober makes a round, the caller initialises or stops. A run is any finite sequence
of steps, in any order. Every call on the transport inside a step goes as the step says, so a
statement about all runs is one about all transports.

* `Composes` and `Handles` are the two induction principles. A relation between a supervisor, what
  is done and the supervisor afterwards that composes, and holds of each step, holds of a run
  (`Composes.run`). If it holds of a single event, it holds of a call on the transport, whatever
  that call delivers (`Handles.play`).
* `Steady.step` is the third one: of a relation that looks at the link and its backoff only, it is
  enough to check each thing that a supervisor does. `steady_deeds` is its case for what is done.
* `play_frame` says what a call on the transport leaves alone, `run_setup` what a run does. A
  supervisor whose calls deliver nothing moves its link only when it handles an event
  (`handle_returns_of_next`).
-/

namespace LinkWarden

/-- A deed without bearing on the link and its backoff: a line, or a call on the transport other
than for a connection. -/
def Deed.IsQuiet : Deed → Prop
  | .logs _ => True
  | .calls c => c ≠ .connect
  | _ => False

namespace Supervisor

/-! ### Steps and runs -/

/-- A step of a supervisor. -/
inductive Step
  | /-- The transport delivers an event, on the thread of the actor. If the event makes the
    supervisor ask for a connection, that call goes as `reply` says. -/
    deliver (actor : Actor) (e : Event) (reply : Reply)
  | /-- A turn of the reconnector: it is woken, charges an attempt and makes it, or gives up. -/
    turn (reply : Reply)
  | /-- The wait of the reconnector ends: the link is up, the time is over, or it has to exit. -/
    wake (timeIsOver : Bool)
  | /-- A round of the prober. -/
    check (found : Option Probe) (reply : Reply)
  | init (reply : Reply)
  | /-- The workers are told to exit. They go on until they notice. -/
    requestStop
  | /-- The workers are told to exit and have done so. -/
    stop (reply : Reply)

/-- The supervisor after a step, and what is done in it. -/
def step : Step → Supervisor → Supervisor × List Act
  | .deliver actor e reply, s => ((s.handle actor e reply).1, (s.handle actor e reply).2.1)
  | .turn reply, s => s.turn reply
  | .wake timeIsOver, s => s.wake timeIsOver
  | .check found reply, s => s.check found reply
  | .init reply, s => ((s.init reply).1, (s.init reply).2.1)
  | .requestStop, s => (s.requestStop, [])
  | .stop reply, s => s.stop reply

/-- The supervisor after a run, and what is done in it. -/
def run : List Step → Supervisor → Supervisor × List Act
  | [], s => (s, [])
  | x :: xs, s => ((run xs (step x s).1).1, (step x s).2 ++ (run xs (step x s).1).2)

/-- A run after another one begins where that has led, and what is done adds up. -/
theorem run_append (xs ys : List Step) (s : Supervisor) :
    run (xs ++ ys) s = ((run ys (run xs s).1).1, (run xs s).2 ++ (run ys (run xs s).1).2) := by
  induction xs generalizing s with
  | nil => simp [run]
  | cons x xs ih => simp [run, ih]

/-! ### Induction over calls and runs -/

/-- The relation holds when nothing is done, and of one thing after another. -/
structure Composes (R : Supervisor → List Act → Supervisor → Prop) : Prop where
  nothing : ∀ s, R s [] s
  andThen : ∀ {s t u xs ys}, R s xs t → R t ys u → R s (xs ++ ys) u

/-- The relation composes, and holds of each single thing that is done about an event: it is
ignored; it moves the link; it moves the link and the transport is called; that call has failed. -/
structure Handles (actor : Actor) (R : Supervisor → List Act → Supervisor → Prop) : Prop
    extends Composes R where
  ignored : ∀ s e, s.state.next e = none → R s (asActs actor (s.ignoreDeeds e)) s
  moved : ∀ s e m, s.state.next e = some m → m.action ≠ some .connect →
    R s (asActs actor (s.moveDeeds e m)) (s.moved m)
  started : ∀ s e m, s.state.next e = some m → m.action = some .connect →
    R s (asActs actor (s.moveDeeds e m) ++ [⟨actor, .calls .connect⟩]) (s.moved m)
  failed : ∀ s ending, R s (asActs actor (s.connectDeeds ending)) s

/-- **A relation that holds of each event holds of a call on the transport**, whatever the call
delivers and however the calls inside it go. -/
theorem Handles.play {actor : Actor} {R : Supervisor → List Act → Supervisor → Prop}
    (hR : Handles actor R) (r : Reply) (s : Supervisor) :
    R s (play actor r s).2.1 (play actor r s).1 := by
  induction r generalizing s with
  | returns result => exact hR.nothing s
  | dies => exact hR.nothing s
  | delivers e nested rest ihNested ihRest =>
    rcases h : s.state.next e with _ | m
    · rw [play_ignored h]
      exact hR.andThen (hR.ignored s e h) (ihRest s)
    · by_cases hm : m.action = some .connect
      · -- the call that the event leads to comes between the event and the rest
        have hcall : R s (asActs actor (s.moveDeeds e m) ++ (connect actor nested (s.moved m)).2.1)
            (connect actor nested (s.moved m)).1 := by
          have := hR.andThen (hR.andThen (hR.started s e m h hm) (ihNested (s.moved m)))
            (hR.failed _ (Supervisor.play actor nested (s.moved m)).2.2)
          simpa [connect] using this
        rcases hend : (connect actor nested (s.moved m)).2.2 with result | _
        · rw [play_started_of_returned h hm hend]
          exact hR.andThen hcall (ihRest _)
        · rw [play_started_of_died h hm hend]
          exact hcall
      · rw [play_moved h hm]
        exact hR.andThen (hR.moved s e m h hm) (ihRest _)

/-- A relation that holds of each event and of the call itself holds of a call for a connection. -/
theorem Handles.connect {actor : Actor} {R : Supervisor → List Act → Supervisor → Prop}
    (hR : Handles actor R) (r : Reply) {s : Supervisor} (hs : R s [⟨actor, .calls .connect⟩] s) :
    R s (connect actor r s).2.1 (connect actor r s).1 := by
  have h := hR.andThen (hR.andThen hs (hR.play r s)) (hR.failed _ (Supervisor.play actor r s).2.2)
  simpa [Supervisor.connect] using h

/-- **A relation that holds of each step holds of a run.** -/
theorem Composes.run {R : Supervisor → List Act → Supervisor → Prop} (hR : Composes R)
    (hstep : ∀ x s, R s (step x s).2 (step x s).1) (xs : List Step) (s : Supervisor) :
    R s (run xs s).2 (run xs s).1 := by
  induction xs generalizing s with
  | nil => exact hR.nothing s
  | cons x xs ih => exact hR.andThen (hstep x s) (ih _)

/-! ### What a call on the transport leaves alone -/

/-- **A call on the transport changes the state of the link and the backoff, and nothing else.** -/
theorem play_frame (actor : Actor) (r : Reply) (s : Supervisor) :
    (play actor r s).1 =
      { s with state := (play actor r s).1.state, backoff := (play actor r s).1.backoff } := by
  have hR : Handles actor fun s _ t => t = { s with state := t.state, backoff := t.backoff } := by
    refine ⟨⟨fun _ => rfl, ?_⟩, fun _ _ _ => rfl, ?_, ?_, fun _ _ => rfl⟩
    · intro s t u xs ys hst htu
      rw [htu, hst]
    · intro s e m _ _
      simp [moved_eq]
    · intro s e m _ _
      simp [moved_eq]
  exact hR.play r s

/-- A call does not change whether the supervisor counts as initialised. -/
@[simp] theorem play_initialized (actor : Actor) (r : Reply) (s : Supervisor) :
    (play actor r s).1.initialized = s.initialized := by
  rw [play_frame]

/-- A call does not change the phase of the reconnector. -/
@[simp] theorem play_reconnector (actor : Actor) (r : Reply) (s : Supervisor) :
    (play actor r s).1.reconnector = s.reconnector := by
  rw [play_frame]

/-! ### Steps that charge no attempt -/

/-- To wait for the workers is quiet. -/
theorem isQuiet_join (s : Supervisor) : ∀ a ∈ s.join.2, a.deed.IsQuiet :=
  forall_of_logs (fun _ _ => trivial) fun _ => logs_of_mem_join

/-- What is done about the end of a call for a connection is quiet. -/
theorem isQuiet_connectDeeds (s : Supervisor) (actor : Actor) (ending : Ending) :
    ∀ a ∈ asActs actor (s.connectDeeds ending), a.deed.IsQuiet :=
  forall_asActs_of_logs (fun _ _ => trivial) fun _ => logs_of_mem_connectDeeds

/-- What is done about the end of a forced disconnection is quiet. -/
theorem isQuiet_disconnectDeeds (s : Supervisor) (actor : Actor) (ending : Ending) :
    ∀ a ∈ asActs actor (s.disconnectDeeds ending), a.deed.IsQuiet :=
  forall_asActs_of_logs (fun _ _ => trivial) fun _ => logs_of_mem_disconnectDeeds

/-- What is done about a probe is quiet. -/
theorem isQuiet_probeDeeds (s : Supervisor) (actor : Actor) (p : Probe) :
    ∀ a ∈ asActs actor (s.probeDeeds p), a.deed.IsQuiet :=
  forall_asActs_of_logs (fun _ _ => trivial) fun _ => logs_of_mem_probeDeeds

/-- The relation holds of everything that a supervisor does, charging attempts and giving up
aside. It looks at the link and its backoff only, so whatever else changes is of no account. -/
structure Steady (R : Supervisor → List Act → Supervisor → Prop) : Prop extends Composes R where
  events : ∀ actor, Handles actor R
  quiet : ∀ s acts, (∀ a ∈ acts, a.deed.IsQuiet) → R s acts s
  control : ∀ s t, t.id = s.id → t.supervision = s.supervision → t.state = s.state →
    t.backoff = s.backoff → R s [] t
  asked : ∀ s actor, R s [⟨actor, .calls .connect⟩] s
  reset : ∀ s, s.state = .connected → R s [] s.resetBackoff

namespace Steady

variable {R : Supervisor → List Act → Supervisor → Prop}

/-- Lines are written, and then something changes that is of no account. -/
theorem quietly (h : Steady R) {s t : Supervisor} (acts : List Act)
    (hacts : ∀ a ∈ acts, a.deed.IsQuiet) (hid : t.id = s.id)
    (hsup : t.supervision = s.supervision) (hstate : t.state = s.state)
    (hback : t.backoff = s.backoff) : R s acts t := by
  have := h.andThen (h.quiet s acts hacts) (h.control s t hid hsup hstate hback)
  simpa using this

/-- The exit of the reconnector is a line. -/
theorem leave (h : Steady R) (s : Supervisor) : R s s.leave.2 s.leave.1 :=
  h.quietly _ (by simp [Supervisor.leave, note, Deed.IsQuiet]) rfl rfl rfl rfl

/-- An attempt is a call for a connection and what it delivers. -/
theorem attempt (h : Steady R) (reply : Reply) (s : Supervisor) :
    R s (s.attempt reply).2 (s.attempt reply).1 := by
  have hcall := (h.events .reconnector).connect reply (h.asked s .reconnector)
  have hphase : ∀ (t : Supervisor) (r : Reconnector), R t [] { t with reconnector := r } :=
    fun t r => h.control t _ rfl rfl rfl rfl
  unfold Supervisor.attempt
  split
  · next n wait _ =>
    rcases hx : Supervisor.connect .reconnector reply s with ⟨t, acts, result | _⟩
    · rw [hx] at hcall
      have := h.andThen hcall (hphase t (.awaiting n wait))
      simpa using this
    · rw [hx] at hcall
      have := h.andThen hcall (hphase t .dead)
      simpa using this
  · exact h.nothing s

/-- A wait ends with a line; if the link is up, the backoff is reset, which it is already. -/
theorem wake (h : Steady R) (timeIsOver : Bool) (s : Supervisor) :
    R s (s.wake timeIsOver).2 (s.wake timeIsOver).1 := by
  unfold Supervisor.wake
  split
  · next n _ _ =>
    split
    · exact h.leave s
    split
    · next hc =>
      have hreset := h.reset s ((isConnected_iff s).mp hc)
      have := h.andThen hreset (h.quietly (t := { s.resetBackoff with reconnector := .idle })
        (asActs .reconnector
          [s.note .info ("reconnected after " ++ toString n.toNat ++ " attempt(s)")])
        (by simp [note, Deed.IsQuiet]) rfl rfl rfl rfl)
      simpa using this
    split
    · exact h.quietly _ (by simp [note, Deed.IsQuiet]) rfl rfl rfl rfl
    · exact h.nothing s
  · exact h.nothing s

/-- A miss is a line. If there are enough of them, the session is ended, and what that call delivers
comes of single events. -/
theorem miss (h : Steady R) (reply : Reply) (s : Supervisor) :
    R s (s.miss reply).2 (s.miss reply).1 := by
  unfold Supervisor.miss
  dsimp only
  split
  · -- the warning, the call, what the call delivers, and the line about its failure
    have hplay := (h.events .prober).play reply { s with misses := 0 }
    rcases hx : play .prober reply { s with misses := 0 } with ⟨t, acts, ending⟩
    rw [hx] at hplay
    have hended := h.quietly (s := t) (t := { t with prober := t.prober.after ending }) _
      (isQuiet_disconnectDeeds t .prober ending) rfl rfl rfl rfl
    have := h.andThen (h.andThen (h.quietly (s := s) (t := { s with misses := 0 })
      (asActs .prober [s.note .warn ("unreachable (" ++ toString (s.misses + 1).toNat ++
        "/" ++ toString s.supervision.health.threshold.toNat ++ ")"), .calls .disconnect])
      (by simp [note, Deed.IsQuiet]) rfl rfl rfl rfl) hplay) hended
    simpa using this
  · exact h.quietly _ (by simp [note, Deed.IsQuiet]) rfl rfl rfl rfl

/-- A round probes, and judges what it finds. -/
theorem check (h : Steady R) (found : Option Probe) (reply : Reply) (s : Supervisor) :
    R s (s.check found reply).2 (s.check found reply).1 := by
  unfold Supervisor.check
  split
  · exact h.nothing s
  split
  · exact h.control s _ rfl rfl rfl rfl
  cases found with
  | none => exact h.quiet s _ (by simp [Deed.IsQuiet])
  | some p =>
    have hheard := isQuiet_probeDeeds s .prober p
    have hjudge : R s (s.judge p reply).2 (s.judge p reply).1 := by
      unfold judge
      dsimp only
      split
      · exact h.quietly _ hheard rfl rfl rfl rfl
      · exact h.andThen (h.quiet s _ hheard) (h.miss reply s)
    exact h.andThen (h.quiet s _ (by simp [Deed.IsQuiet])) hjudge

/-- An initialisation starts the transport, whatever that call delivers, and then the workers. -/
theorem init (h : Steady R) (reply : Reply) (s : Supervisor) :
    R s (s.init reply).2.1 (s.init reply).1 := by
  unfold Supervisor.init
  split
  · exact h.control s _ rfl rfl rfl rfl
  have hplay := h.andThen (h.quietly (s := s) (t := { s with initialized := true })
    (asActs .caller [.calls .bind, .calls .start]) (by simp [Deed.IsQuiet])
    rfl rfl rfl rfl) ((h.events .caller).play reply { s with initialized := true })
  rcases hx : play .caller reply { s with initialized := true } with ⟨t, acts, ending⟩
  rw [hx] at hplay
  have hworkers : R t t.startWorkers.2 t.startWorkers.1 := by
    refine h.quietly _ ?_ rfl rfl rfl rfl
    simp [startWorkers, note, Deed.IsQuiet]
  rcases ending with (e | u) | _
  · exact h.andThen hplay (h.quietly _ (by simp [note, Deed.IsQuiet]) rfl rfl rfl rfl)
  · exact h.andThen hplay hworkers
  · exact hplay

/-- A stop lets the reconnector come to its end and waits for the workers. -/
theorem stop (h : Steady R) (reply : Reply) (s : Supervisor) :
    R s (s.stop reply).2 (s.stop reply).1 := by
  have hfinish : ∀ t : Supervisor, R t (t.finish reply).2 (t.finish reply).1 := by
    intro t
    unfold finish
    split
    · exact h.andThen (h.attempt reply t) (h.wake false _)
    · exact h.leave t
    · exact h.leave t
    · exact h.nothing t
  have hjoin : ∀ t : Supervisor, R t t.join.2 t.join.1 := by
    intro t
    rw [join_frame]
    exact h.quietly _ (isQuiet_join t) rfl rfl rfl rfl
  have := h.andThen (h.control s s.requestStop rfl rfl rfl rfl)
    (h.andThen (hfinish s.requestStop) (hjoin _))
  simpa [Supervisor.stop] using this

/-- **A relation that holds of everything a supervisor does holds of a step.** Only in a turn is
there something to charge. -/
theorem step (h : Steady R) {x : Step} {s : Supervisor}
    (hcharge : ∀ reply, x = .turn reply → R s s.charge.2 s.charge.1) :
    R s (step x s).2 (step x s).1 := by
  cases x with
  | deliver actor e reply => exact (h.events actor).play (.delivers e reply .done) s
  | turn reply => exact h.andThen (hcharge reply rfl) (h.attempt reply _)
  | wake timeIsOver => exact h.wake timeIsOver s
  | check found reply => exact h.check found reply s
  | init reply => exact h.init reply s
  | requestStop => exact h.control s _ rfl rfl rfl rfl
  | stop reply => exact h.stop reply s

end Steady

/-- A property of all quiet deeds, of transitions and of calls for a connection holds of all that is
done when nothing is charged. -/
theorem steady_deeds {P : Deed → Prop} (hquiet : ∀ d : Deed, d.IsQuiet → P d)
    (hmoves : ∀ before after, P (.moves before after)) (hconnect : P (.calls .connect)) :
    Steady fun _ acts _ => ∀ a ∈ acts, P a.deed := by
  have hcomp : Composes fun _ acts _ => ∀ a ∈ acts, P a.deed := by
    refine ⟨fun _ a ha => absurd ha List.not_mem_nil, ?_⟩
    intro s t u xs ys hxs hys a ha
    rcases List.mem_append.mp ha with ha | ha
    · exact hxs a ha
    · exact hys a ha
  have hline : ∀ line, P (.logs line) := fun line => hquiet _ trivial
  refine ⟨hcomp, fun actor => ⟨hcomp, ?_, ?_, ?_, ?_⟩, ?_, ?_, ?_, ?_⟩
  · simp [ignoreDeeds, note, hline]
  · simp [moveDeeds, note, hline, hmoves]
  · simp [moveDeeds, note, hline, hmoves, hconnect]
  · exact fun s ending a ha => hquiet _ (isQuiet_connectDeeds s actor ending a ha)
  · exact fun s acts hacts a ha => hquiet _ (hacts a ha)
  · simp
  · simp [hconnect]
  · simp

/-! ### What a run leaves alone -/

/-- Neither the id nor the setup of a supervisor ever changes. -/
theorem steady_setup : Steady fun s _ t => t.id = s.id ∧ t.supervision = s.supervision := by
  have hcomp : Composes fun s _ t => t.id = s.id ∧ t.supervision = s.supervision :=
    ⟨fun _ => ⟨rfl, rfl⟩, fun hst htu => ⟨htu.1.trans hst.1, htu.2.trans hst.2⟩⟩
  refine ⟨hcomp, fun actor => ⟨hcomp, ?_, ?_, ?_, ?_⟩, ?_, ?_, ?_, ?_⟩
  · exact fun s e _ => ⟨rfl, rfl⟩
  · exact fun s e m _ _ => by simp [moved_eq]
  · exact fun s e m _ _ => by simp [moved_eq]
  · exact fun s _ => ⟨rfl, rfl⟩
  · exact fun s _ _ => ⟨rfl, rfl⟩
  · exact fun s t hid hsup _ _ => ⟨hid, hsup⟩
  · exact fun s _ => ⟨rfl, rfl⟩
  · exact fun s _ => ⟨rfl, rfl⟩

/-- **A step leaves the id and the setup alone**, also one that charges an attempt or gives up. -/
theorem step_setup (x : Step) (s : Supervisor) :
    (step x s).1.id = s.id ∧ (step x s).1.supervision = s.supervision := by
  refine steady_setup.step ?_
  intro reply _
  by_cases hd : s.IsDue
  · cases ha : s.supervision.retry.allows s.backoff.attempt with
    | true => rw [charge_of_allows hd ha]; exact ⟨rfl, rfl⟩
    | false => rw [charge_of_not_allows hd ha]; exact ⟨rfl, rfl⟩
  · rcases charge_of_not_due hd with hc | hc <;> rw [hc] <;> exact ⟨rfl, rfl⟩

/-- **A run leaves the id and the setup alone.** -/
theorem run_setup (xs : List Step) (s : Supervisor) :
    (run xs s).1.id = s.id ∧ (run xs s).1.supervision = s.supervision :=
  steady_setup.toComposes.run step_setup xs s

/-! ### Calls that deliver nothing -/

section Silent

variable (result : Except LinkError Unit) (s : Supervisor)

/-- An attempt whose call delivers nothing does not move the link. -/
theorem state_attempt_returns : (s.attempt (.returns result)).1.state = s.state := by
  unfold attempt
  split <;> rfl

/-- A charge does not move the link. -/
theorem state_charge : s.charge.1.state = s.state := by
  by_cases hd : s.IsDue
  · cases ha : s.supervision.retry.allows s.backoff.attempt with
    | true => rw [charge_of_allows hd ha]; rfl
    | false => rw [charge_of_not_allows hd ha]
  · rcases charge_of_not_due hd with hc | hc <;> rw [hc]

/-- Nor does the end of a wait. -/
theorem state_wake (timeIsOver : Bool) : (s.wake timeIsOver).1.state = s.state := by
  unfold wake
  split
  · split
    · rfl
    split
    · rfl
    split <;> rfl
  · rfl

/-- Nor does a reconnector that goes on until it rests. -/
theorem state_settle (isOver : Duration → Bool) : (s.settle isOver).1.state = s.state := by
  have hadvance : ∀ t : Supervisor, (t.advance isOver).1.state = t.state := by
    intro t
    unfold advance
    split
    · split
      · rfl
      split
      · exact state_charge t
      · rfl
    · exact state_wake t _
    · rfl
  exact (hadvance _).trans (hadvance s)

/-- Nor does a round of the prober. -/
theorem state_check_returns (found : Option Probe) :
    (s.check found (.returns result)).1.state = s.state := by
  unfold check judge miss
  split
  · rfl
  split
  · rfl
  cases found with
  | none => rfl
  | some p =>
    dsimp only
    split
    · rfl
    split <;> rfl

/-- Nor does an initialisation. -/
theorem state_init_returns : (s.init (.returns result)).1.state = s.state := by
  unfold init
  split
  · rfl
  · cases result <;> rfl

/-- Nor does a stop. -/
theorem state_stop_returns : (s.stop (.returns result)).1.state = s.state := by
  have hfinish : (s.requestStop.finish (.returns result)).1.state = s.state := by
    unfold finish
    split
    · exact (state_wake _ false).trans (state_attempt_returns result _)
    · rfl
    · rfl
    · rfl
  have hjoin : ∀ t : Supervisor, t.join.1.state = t.state := by
    intro t
    rw [join_frame]
  exact (hjoin _).trans hfinish

/-- An event that is accepted moves the link, and the move is recorded. -/
theorem handle_returns_of_next (actor : Actor) {e : Event} {m : Move}
    (h : s.state.next e = some m) :
    (s.handle actor e (.returns result)).1.state = m.to ∧
      ⟨actor, .moves s.state m.to⟩ ∈ (s.handle actor e (.returns result)).2.1 := by
  unfold handle
  by_cases hm : m.action = some .connect
  · have hr : (connect actor (.returns result) (s.moved m)).2.2 = .returned result := rfl
    rw [play_started_of_returned h hm hr]
    simp [connect, Reply.done, moveDeeds]
  · rw [play_moved h hm]
    simp [Reply.done, moveDeeds]

/-- An event that is ignored does not move the link. -/
theorem handle_returns_of_ignored (actor : Actor) {e : Event} (h : s.state.next e = none) :
    (s.handle actor e (.returns result)).1.state = s.state := by
  unfold handle
  rw [play_ignored h]
  rfl

end Silent

end Supervisor

end LinkWarden

import LinkWarden.Proofs.Supervisor.Heard

/-!
# A stop is final

A stop tells the workers to exit and waits for them. It may come at any point of their round: while
the reconnector waits for the loss of the link or for the link, while it holds an attempt that it
has charged, or between two rounds of the prober. Here runs are taken apart as far as the workers
can be interrupted: a `Stride` is a step, one half of a turn, or the reconnector going on by itself
from one of its waits.

* `IsHalted` is what a stop leaves behind, and what every stride keeps. A halted supervisor answers
  the events that it hears and does nothing else (`IsHalted.answers_stride`); of its workers it
  hears nothing.
* `answers_stop` says what happens while a stop waits: an attempt that is still held is made.
* `stop_is_final` puts this together for every supervisor that a run leads to.
-/

namespace LinkWarden.Supervisor

open LinkState

instance (s : Supervisor) : Decidable s.IsFresh := inferInstanceAs (Decidable (_ ∧ _))

/-! ### Strides -/

/-- What can happen to a supervisor between two points at which its workers can be told to exit. -/
inductive Stride
  | fine (x : FineStep)
  | /-- The reconnector goes on from a wait, if it can without a call on the transport. A wait for
    which `isOver` holds ends by itself. -/
    goOn (isOver : Duration → Bool)

/-- The supervisor after a stride, and what is done in it. -/
def stride : Stride → Supervisor → Supervisor × List Act
  | .fine x, s => fineStep x s
  | .goOn isOver, s => s.advance isOver

/-- The supervisor after a run of strides, and what is done in it. -/
def strides : List Stride → Supervisor → Supervisor × List Act
  | [], s => (s, [])
  | x :: xs, s =>
    ((strides xs (stride x s).1).1, (stride x s).2 ++ (strides xs (stride x s).1).2)

/-- A stride of one of the workers. -/
inductive Stride.IsWorkers : Stride → Prop
  | charge : IsWorkers (.fine .charge)
  | attempt (reply : Reply) : IsWorkers (.fine (.attempt reply))
  | turn (reply : Reply) : IsWorkers (.fine (.whole (.turn reply)))
  | wake (timeIsOver : Bool) : IsWorkers (.fine (.whole (.wake timeIsOver)))
  | check (found : Option Probe) (reply : Reply) :
    IsWorkers (.fine (.whole (.check found reply)))
  | goOn (isOver : Duration → Bool) : IsWorkers (.goOn isOver)

/-- What an initialisation hears while it starts the transport, if it does. -/
def heardAtStart (reply : Reply) (s : Supervisor) : List Event :=
  if s.IsFresh then (reply.heard s.state).1 else []

/-- What is heard in a stride once the workers have been told to exit: the events that the transport
delivers of its own accord, and those that it delivers while it is started. -/
def heard : Stride → Supervisor → List Event
  | .fine (.whole (.deliver _ e reply)), s => ((Reply.delivers e reply .done).heard s.state).1
  | .fine (.whole (.init reply)), s => s.heardAtStart reply
  | _, _ => []

/-- What is heard in a run of strides. -/
def heardIn : List Stride → Supervisor → List Event
  | [], _ => []
  | x :: xs, s => heard x s ++ heardIn xs (stride x s).1

/-- What is heard while a stop waits for the workers: the events of an attempt that is still to be
made. -/
def lastHeard (reply : Reply) (s : Supervisor) : List Event :=
  if s.held = 0 then [] else (reply.heard s.state).1

/-! ### What the workers do once they have been told to exit -/

/-- The workers have been told to exit, and no attempt is held. -/
structure IsHalted (s : Supervisor) : Prop where
  stopping : s.stopping = true
  settled : ∀ n wait, s.reconnector ≠ .attempting n wait

/-- At most the reconnector has exited, and lines have been written about it. -/
structure Quits (s : Supervisor) (y : Supervisor × List Act) : Prop where
  supervisor : y.1 = s ∨ y.1 = { s with reconnector := .exited }
  lines : ∀ a ∈ y.2, ∃ line, a.deed = .logs line

namespace Quits

variable {s : Supervisor} {y : Supervisor × List Act}

/-- A worker may do nothing at all. -/
theorem refl (s : Supervisor) : Quits s (s, []) := ⟨.inl rfl, by simp⟩

/-- A worker may leave. -/
theorem leave (s : Supervisor) : Quits s s.leave := ⟨.inr rfl, by simp [Supervisor.leave, note]⟩

/-- Either way nothing has happened to the link. -/
theorem sameLink (h : Quits s y) : SameLink s y.1 := by
  rcases h.supervisor with hy | hy <;> rw [hy] <;> exact ⟨rfl, rfl, rfl, rfl⟩

/-- So no event is answered. -/
theorem answers (h : Quits s y) : Answers 0 s [] y.2 y.1 := .of_lines h.sameLink h.lines

/-- The workers have still been told to exit. -/
theorem isHalted (h : Quits s y) (hs : s.IsHalted) : y.1.IsHalted := by
  rcases h.supervisor with hy | hy <;> rw [hy]
  · exact hs
  · exact ⟨hs.stopping, fun _ _ hr => Reconnector.noConfusion hr⟩

end Quits

namespace IsHalted

variable {s : Supervisor} (h : s.IsHalted)
include h

/-- No attempt is due. -/
theorem not_isDue : ¬ s.IsDue := by
  rintro ⟨-, hs, -⟩
  rw [h.stopping] at hs
  cases hs

/-- So none is charged. -/
theorem quits_charge : Quits s s.charge := by
  rcases charge_of_not_due h.not_isDue with hc | hc <;> rw [hc]
  · exact .refl s
  · exact ⟨.inl rfl, by simp [note]⟩

/-- A turn charges nothing that it could make. -/
theorem quits_turn (reply : Reply) : Quits s (s.turn reply) := by
  have hsettled := attempt_of_settled reply h.settled
  have hturn : s.turn reply = s.charge := by
    unfold turn
    rcases charge_of_not_due h.not_isDue with hc | hc <;> simp [hc, hsettled]
  rw [hturn]
  exact h.quits_charge

/-- Neither the link nor the time is looked at. -/
theorem quits_wake (timeIsOver : Bool) : Quits s (s.wake timeIsOver) := by
  unfold wake
  split
  · rw [if_pos h.stopping]
    exact .leave s
  · exact .refl s

/-- A reconnector that goes on, from whatever wait, leaves. -/
theorem quits_advance (isOver : Duration → Bool) : Quits s (s.advance isOver) := by
  unfold advance
  split
  · rw [if_pos h.stopping]
    exact .leave s
  · exact h.quits_wake _
  · exact .refl s

/-- The prober makes no round. -/
theorem quits_check (found : Option Probe) (reply : Reply) : Quits s (s.check found reply) := by
  unfold check
  rw [if_pos (by simp [h.stopping])]
  exact .refl s

/-- **Workers that have been told to exit do nothing else.** -/
theorem quits_stride {x : Stride} (hx : x.IsWorkers) : Quits s (stride x s) := by
  cases hx with
  | charge => exact h.quits_charge
  | attempt reply =>
    rw [stride, fineStep, attempt_of_settled reply h.settled]
    exact .refl s
  | turn reply => exact h.quits_turn reply
  | wake timeIsOver => exact h.quits_wake timeIsOver
  | check found reply => exact h.quits_check found reply
  | goOn isOver => exact h.quits_advance isOver

end IsHalted

/-! ### A stop -/

/-- The workers have been told to exit, and the reconnector does not run: it has exited, has died or
has never been started. -/
structure IsGone (s : Supervisor) : Prop where
  stopping : s.stopping = true
  reconnector : s.reconnector = .unstarted ∨ s.reconnector = .exited ∨ s.reconnector = .dead

/-- Nobody has to be waited for, either. -/
structure IsOver (s : Supervisor) : Prop extends IsGone s where
  noWorkers : s.workers = 0

/-- Where the reconnector does not run it holds no attempt. -/
theorem IsGone.isHalted {s : Supervisor} (h : s.IsGone) : s.IsHalted := by
  refine ⟨h.stopping, ?_⟩
  intro n wait
  rcases h.reconnector with hr | hr | hr <;> simp [hr]

/-- **A stop that finds no one to wait for changes nothing and says nothing.** -/
theorem IsOver.stop {s : Supervisor} (h : s.IsOver) (reply : Reply) : s.stop reply = (s, []) := by
  have hstop : s.requestStop = s := by
    unfold requestStop
    rw [← h.stopping]
  have hfinish : s.finish reply = (s, []) := by
    unfold finish
    rcases h.reconnector with hr | hr | hr <;> rw [hr]
  rw [Supervisor.stop, hstop, hfinish]
  simp [join, h.noWorkers]

/-- A call for a connection is one besides those that its events ask for. -/
theorem answers_connect (actor : Actor) (r : Reply) (s : Supervisor) :
    Answers 1 s (r.heard s.state).1 (connect actor r s).2.1 (connect actor r s).1 := by
  have hcall : Answers 1 s [] [⟨actor, .calls .connect⟩] s := by
    refine ⟨rfl, by simp [moves], rfl, rfl, rfl, rfl, ?_⟩
    simp [Deed.IsWork]
  have hplay := (answers_play actor r s).1.then_quiet
    (answers_connectDeeds actor _ (play actor r s).2.2)
  simpa [connect] using hcall.append hplay

/-- A reconnector that holds an attempt makes it and exits, unless it dies in the call. -/
theorem finish_of_attempting {s : Supervisor} {n : UInt32} {wait : Duration} (reply : Reply)
    (hs : s.stopping = true) (hr : s.reconnector = .attempting n wait) :
    Answers 1 s (reply.heard s.state).1 (s.finish reply).2 (s.finish reply).1 ∧
      (s.finish reply).1.IsGone := by
  have hcall := answers_connect .reconnector reply s
  have hstopping : (connect .reconnector reply s).1.stopping = true := by
    have := congrArg Supervisor.stopping (play_frame .reconnector reply s)
    exact this.trans hs
  have hmade := attempt_of_attempting reply hr
  unfold finish
  rw [hr]
  dsimp only
  rcases hend : (connect .reconnector reply s).2.2 with result | _
  · -- the call has returned, and the wait for the link ends at once
    rw [hend] at hmade
    have hwake : (s.attempt reply).1.wake false = (s.attempt reply).1.leave := by
      rw [hmade]
      simp [wake, hstopping]
    rw [hwake, hmade]
    refine ⟨?_, hstopping, .inr (.inl rfl)⟩
    exact (hcall.congr ⟨rfl, rfl, rfl, rfl⟩).then_quiet (Quits.leave _).answers
  · rw [hend] at hmade
    have hwake : (s.attempt reply).1.wake false = ((s.attempt reply).1, []) := by
      rw [hmade]
      simp [wake]
    rw [hwake, hmade, List.append_nil]
    exact ⟨hcall.congr ⟨rfl, rfl, rfl, rfl⟩, hstopping, .inr (.inr rfl)⟩

/-- A reconnector that holds no attempt exits, if it runs. -/
theorem finish_of_settled {s : Supervisor} (reply : Reply) (hs : s.stopping = true)
    (hr : ∀ n wait, s.reconnector ≠ .attempting n wait) :
    Quits s (s.finish reply) ∧ (s.finish reply).1.IsGone := by
  unfold finish
  split
  · next n wait h => exact absurd h (hr n wait)
  · exact ⟨.leave s, hs, .inr (.inl rfl)⟩
  · exact ⟨.leave s, hs, .inr (.inl rfl)⟩
  · next hattempting hidle hawaiting =>
    refine ⟨.refl s, hs, ?_⟩
    cases h : s.reconnector with
    | unstarted => exact .inl rfl
    | idle => exact absurd h hidle
    | attempting n wait => exact absurd h (hattempting n wait)
    | awaiting n wait => exact absurd h (hawaiting n wait)
    | exited => exact .inr (.inl rfl)
    | dead => exact .inr (.inr rfl)

/-- To wait for the workers changes nothing but who there is to wait for. -/
theorem join_of_isGone {s : Supervisor} (h : s.IsGone) :
    Answers 0 s [] s.join.2 s.join.1 ∧ s.join.1.IsOver := by
  rw [join_frame]
  exact ⟨.of_lines ⟨rfl, rfl, rfl, rfl⟩ fun _ ha => logs_of_mem_join ha,
    ⟨h.stopping, h.reconnector⟩, rfl⟩

/-- **A stop moves the link no further than an attempt that is still held does**, and nothing is
left of the workers. -/
theorem answers_stop (reply : Reply) (s : Supervisor) :
    Answers s.held s (s.lastHeard reply) (s.stop reply).2 (s.stop reply).1 ∧
      (s.stop reply).1.IsOver := by
  have hasked : Answers 0 s [] [] s.requestStop := .of_lines ⟨rfl, rfl, rfl, rfl⟩ (by simp)
  have hfinish : Answers s.held s (s.lastHeard reply) (s.requestStop.finish reply).2
      (s.requestStop.finish reply).1 ∧ (s.requestStop.finish reply).1.IsGone := by
    by_cases h : ∃ n wait, s.reconnector = .attempting n wait
    · obtain ⟨n, wait, hr⟩ := h
      obtain ⟨hanswers, hgone⟩ := finish_of_attempting (s := s.requestStop) reply rfl hr
      have hheld : s.held = 1 := by simp [held, hr]
      rw [lastHeard, hheld]
      exact ⟨hasked.after_quiet hanswers, hgone⟩
    · have hr : ∀ n wait, s.reconnector ≠ .attempting n wait := fun n wait hr => h ⟨n, wait, hr⟩
      obtain ⟨hquits, hgone⟩ := finish_of_settled (s := s.requestStop) reply rfl hr
      rw [lastHeard, held_of_settled hr]
      exact ⟨hasked.after_quiet hquits.answers, hgone⟩
  obtain ⟨hjoin, hover⟩ := join_of_isGone hfinish.2
  exact ⟨hfinish.1.then_quiet hjoin, hover⟩

/-! ### After a stop -/

namespace IsHalted

variable {s : Supervisor}

/-- To be halted depends on the request and the reconnector only. -/
theorem congr {t : Supervisor} (h : s.IsHalted) (hs : t.stopping = s.stopping)
    (hr : t.reconnector = s.reconnector) : t.IsHalted :=
  ⟨hs.trans h.stopping, by rw [hr]; exact h.settled⟩

/-- The transport may go on to deliver events; the request stays. -/
theorem play (h : s.IsHalted) (actor : Actor) (r : Reply) : (play actor r s).1.IsHalted := by
  rw [play_frame]
  exact h.congr rfl rfl

/-- A later initialisation starts the transport, and workers that exit at once. -/
theorem init (h : s.IsHalted) (reply : Reply) :
    Answers 0 s (s.heardAtStart reply) (s.init reply).2.1 (s.init reply).1 ∧
      (s.init reply).1.IsHalted := by
  unfold heardAtStart
  by_cases hf : s.IsFresh
  · have hbefore : Answers 0 s [] (asActs .caller [.calls .bind, .calls .start])
        { s with initialized := true } :=
      .of_quiet ⟨rfl, rfl, rfl, rfl⟩ (by simp [Deed.IsQuiet]) (by simp [Deed.IsWork])
    have hcall := hbefore.after_quiet
      (answers_play .caller reply { s with initialized := true }).1
    have hplay : (s.startCall reply).1.IsHalted :=
      IsHalted.play (s := { s with initialized := true }) (h.congr rfl rfl) .caller reply
    rw [if_pos hf]
    rcases hend : (s.startCall reply).2.2 with (e | _) | _
    · rw [init_of_failed reply hf hend]
      exact ⟨hcall.then_quiet (.of_lines ⟨rfl, rfl, rfl, rfl⟩ (by simp [note])),
        hplay.congr rfl rfl⟩
    · rw [init_of_started reply hf hend]
      refine ⟨hcall.then_quiet (.of_lines ⟨rfl, rfl, rfl, rfl⟩ (by simp [startWorkers, note])), ?_⟩
      exact ⟨hplay.stopping, fun _ _ hr => Reconnector.noConfusion hr⟩
    · rw [init_of_died reply hf hend]
      exact ⟨hcall, hplay⟩
  · rw [if_neg hf, init_of_refused reply hf]
    exact ⟨.of_lines ⟨rfl, rfl, rfl, rfl⟩ (by simp), h.congr rfl rfl⟩

/-- A second stop makes no attempt, since none is held. -/
theorem stop (h : s.IsHalted) (reply : Reply) :
    Answers 0 s [] (s.stop reply).2 (s.stop reply).1 ∧ (s.stop reply).1.IsOver := by
  have hstop := answers_stop reply s
  rw [lastHeard, held_of_settled h.settled] at hstop
  exact hstop

/-- **A halted supervisor answers what it hears and does nothing else**, and it stays halted. -/
theorem answers_stride (h : s.IsHalted) (x : Stride) :
    Answers 0 s (heard x s) (stride x s).2 (stride x s).1 ∧ (stride x s).1.IsHalted := by
  have hworkers : x.IsWorkers → Answers 0 s [] (stride x s).2 (stride x s).1 ∧
      (stride x s).1.IsHalted :=
    fun hx => ⟨(h.quits_stride hx).answers, (h.quits_stride hx).isHalted h⟩
  cases x with
  | goOn isOver => exact hworkers (.goOn isOver)
  | fine x =>
    cases x with
    | charge => exact hworkers .charge
    | attempt reply => exact hworkers (.attempt reply)
    | whole x =>
      cases x with
      | deliver actor e reply =>
        exact ⟨(answers_play actor (.delivers e reply .done) s).1, h.play actor _⟩
      | turn reply => exact hworkers (.turn reply)
      | wake timeIsOver => exact hworkers (.wake timeIsOver)
      | check found reply => exact hworkers (.check found reply)
      | init reply => exact h.init reply
      | requestStop => exact ⟨.of_lines ⟨rfl, rfl, rfl, rfl⟩ (by simp [stride, fineStep, step]),
          rfl, h.settled⟩
      | stop reply => exact ⟨(h.stop reply).1, (h.stop reply).2.isHalted⟩

/-- **So does it in every run.** -/
theorem answers_strides (h : s.IsHalted) (xs : List Stride) :
    Answers 0 s (heardIn xs s) (strides xs s).2 (strides xs s).1 ∧ (strides xs s).1.IsHalted := by
  induction xs generalizing s with
  | nil => exact ⟨.refl s, h⟩
  | cons x xs ih =>
    obtain ⟨hx, hhalted⟩ := h.answers_stride x
    obtain ⟨hxs, hlast⟩ := ih hhalted
    exact ⟨hx.append hxs, hlast⟩

end IsHalted

/-! ### The end of a supervisor -/

/-- What is recorded of events that have been answered. -/
theorem Answers.performAll_fst {own : Nat} {s t : Supervisor} {es : List Event} {acts : List Act}
    (h : Answers own s es acts t) (id : String) (w : Surroundings) :
    (w.performAll id acts).1 = { w with
      history := w.history.map fun hist =>
        hist.appendAll (Surroundings.recordsAt id w.clock (moves s.state es)) } := by
  rw [Surroundings.performAll_fst, h.transitions]

/-- **A stop is final for the workers, and harmless otherwise.** Wherever a run has led:

* a stop leaves the link, the backoff and what is around the supervisor as they were, unless an
  attempt has been charged and is still to be made; that attempt is made, and the events of its call
  are handled as ever;
* a second stop changes nothing, and says nothing;
* whatever happens afterwards, events move the link and are recorded as the table says, the backoff
  is reset when the link comes up, and a connection is asked for only when the transport has
  started. Nothing is probed, ended, charged or given up;
* whatever the workers are woken by, they write lines and exit. -/
theorem stop_is_final (id : String) (c : Supervision) :
    (∀ (xs : List Step) (reply : Reply),
      let s := (run xs (make id c)).1
      SameLink s (s.stop reply).1 ∧
        ∀ w : Surroundings, (w.performAll id (s.stop reply).2).1 = w) ∧
    ∀ (xs : List Stride) (reply : Reply),
      let s := (strides xs (make id c)).1
      let t := (s.stop reply).1
      (s.held = 0 → SameLink s t ∧
        ∀ w : Surroundings, (w.performAll id (s.stop reply).2).1 = w) ∧
      Answers s.held s (s.lastHeard reply) (s.stop reply).2 t ∧
      (∀ again, t.stop again = (t, [])) ∧
      ∀ ys : List Stride,
        let u := (strides ys t).1
        Answers 0 t (heardIn ys t) (strides ys t).2 u ∧
          (∀ w : Surroundings, (w.performAll id (strides ys t).2).1 = { w with
            history := w.history.map fun h => h.appendAll
              (Surroundings.recordsAt id w.clock (moves t.state (heardIn ys t))) }) ∧
          ∀ x : Stride, x.IsWorkers → Quits u (stride x u) := by
  have hharmless : ∀ (s : Supervisor) (reply : Reply), s.held = 0 → SameLink s (s.stop reply).1 ∧
      ∀ w : Surroundings, (w.performAll id (s.stop reply).2).1 = w := by
    intro s reply hheld
    have h := (answers_stop reply s).1
    rw [lastHeard, hheld] at h
    refine ⟨⟨h.state, by simpa [moves] using h.backoff, h.id, h.supervision⟩, fun w => ?_⟩
    rw [h.performAll_fst]
    simp [moves, Surroundings.recordsAt, History.appendAll]
  refine ⟨fun xs reply => hharmless _ reply (held_of_settled (orderly_run id c xs).settled), ?_⟩
  intro xs reply s t
  obtain ⟨hstop, hover⟩ := answers_stop reply s
  refine ⟨hharmless s reply, hstop, hover.stop, ?_⟩
  intro ys u
  obtain ⟨hrun, hhalted⟩ := hover.isHalted.answers_strides ys
  exact ⟨hrun, hrun.performAll_fst id, fun x hx => hhalted.quits_stride hx⟩

/-- The supervisor is stopped while an attempt is held. The attempt brings the link up, and then it
is lost: the reconnector charges nothing. The transport starts again, and is asked to connect. -/
theorem stop_is_final_amid_attempt :
    let xs : List Stride := [.fine (.whole (.init (.delivers .started .done .done))),
      .fine (.whole (.deliver .caller (.lost none) .done)), .fine .charge]
    let ys : List Stride := [.fine (.whole (.deliver .caller (.lost none) .done)),
      .fine .charge, .fine (.whole (.deliver .caller .started .done))]
    let s := (strides xs (make "WifiLink" .persistent)).1
    let t := (s.stop (.delivers (.established none) .done .done)).1
    s.held = 1 ∧ t.state = .connected ∧ t.stop .done = (t, []) ∧
      (strides ys t).1.state = .connecting ∧ requests (strides ys t).2 = 1 ∧
      Quits (strides ys t).1 (stride (.goOn fun _ => true) (strides ys t).1) := by
  intro xs ys s t
  have h := (stop_is_final "WifiLink" .persistent).2 xs
    (.delivers (.established none) .done .done)
  obtain ⟨-, hstop, hagain, hafter⟩ := h
  obtain ⟨hrun, -, hworkers⟩ := hafter ys
  exact ⟨by decide, hstop.state.trans (by decide), hagain .done, hrun.state.trans (by decide),
    hrun.requests.trans (by decide), hworkers _ (.goOn _)⟩

end LinkWarden.Supervisor

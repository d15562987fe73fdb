import LinkWarden.Proofs.Supervisor.Launch
import LinkWarden.Supervisor.Rig

/-!
# Every call for a connection has its reason

A supervisor asks its transport for a connection for two reasons only: the transport has started, or
the reconnector has charged an attempt. Other things may happen between the charge of an attempt and
the call that makes it, so runs are taken apart here further than elsewhere: a `FineStep` may be one
half of a turn.

* `Balanced` is the account. What is asked for, together with an attempt that is still held, is what
  was started and charged, together with an attempt that was held before.
* `balanced_fineRun` balances it over every run, whatever the calls deliver before they return.
* `Asks` says what each single thing that happens contributes.
* `requests_accounted` puts the two together for a new supervisor.
-/

namespace LinkWarden

/-! ### Counting deeds -/

/-- Whether a deed is the acceptance of a `started` event. Nothing else makes a link connecting
(`LinkState.to_eq_connecting_iff`). -/
def Deed.isStart : Deed → Bool
  | .moves _ .connecting => true
  | _ => false

/-- Whether a deed is the charge of an attempt. -/
def Deed.isCharge : Deed → Bool
  | .charges _ => true
  | _ => false

/-- How often the transport is asked for a connection. -/
def requests (acts : List Act) : Nat := Rig.count .connect acts

/-- How many `started` events are accepted. -/
def starts (acts : List Act) : Nat := acts.countP fun a => a.deed.isStart

/-- How many attempts are charged. -/
def charges (acts : List Act) : Nat := acts.countP fun a => a.deed.isCharge

/-- An accepted event makes the link connecting just if the transport has started. -/
theorem LinkState.to_eq_connecting_iff {s : LinkState} {e : Event} {m : Move}
    (h : s.next e = some m) : m.to = .connecting ↔ e = .started := by
  obtain rfl := LinkState.eq_move_of_next h
  cases e <;> simp [Event.move]

/-- Where nothing is done, nothing is asked for. -/
@[simp] theorem requests_nil : requests [] = 0 := rfl

/-- Where nothing is done, no start is accepted. -/
@[simp] theorem starts_nil : starts [] = 0 := rfl

/-- Where nothing is done, nothing is charged. -/
@[simp] theorem charges_nil : charges [] = 0 := rfl

/-- The calls of two runs add up. -/
@[simp] theorem requests_append (xs ys : List Act) :
    requests (xs ++ ys) = requests xs + requests ys :=
  List.countP_append

/-- The accepted starts of two runs add up. -/
@[simp] theorem starts_append (xs ys : List Act) : starts (xs ++ ys) = starts xs + starts ys :=
  List.countP_append

/-- The charges of two runs add up. -/
@[simp] theorem charges_append (xs ys : List Act) : charges (xs ++ ys) = charges xs + charges ys :=
  List.countP_append

/-- An act adds one to the calls if it is one for a connection. -/
@[simp] theorem requests_cons (a : Act) (acts : List Act) :
    requests (a :: acts) = requests acts + if a.deed = .calls .connect then 1 else 0 := by
  simp [requests, Rig.count, List.countP_cons]

/-- An act adds one to the starts if it accepts one. -/
@[simp] theorem starts_cons (a : Act) (acts : List Act) :
    starts (a :: acts) = starts acts + if a.deed.isStart then 1 else 0 :=
  List.countP_cons

/-- An act adds one to the charges if it charges an attempt. -/
@[simp] theorem charges_cons (a : Act) (acts : List Act) :
    charges (a :: acts) = charges acts + if a.deed.isCharge then 1 else 0 :=
  List.countP_cons

/-- Quiet deeds count for nothing. -/
theorem counts_of_quiet {acts : List Act} (h : ∀ a ∈ acts, a.deed.IsQuiet) :
    requests acts = 0 ∧ starts acts = 0 ∧ charges acts = 0 := by
  induction acts with
  | nil => exact ⟨rfl, rfl, rfl⟩
  | cons a acts ih =>
    obtain ⟨hr, hs, hc⟩ := ih fun b hb => h b (List.mem_cons_of_mem a hb)
    have ha := h a List.mem_cons_self
    cases hd : a.deed <;> simp_all [Deed.IsQuiet, Deed.isStart, Deed.isCharge]

namespace Supervisor

/-! ### Runs in smaller steps -/

/-- A step, or one half of a turn of the reconnector. -/
inductive FineStep
  | whole (x : Step)
  | /-- The reconnector charges an attempt, gives up, or finds that there is nothing to be done. -/
    charge
  | /-- It makes the attempt that it has charged. -/
    attempt (reply : Reply)

/-- The supervisor after such a step, and what is done in it. -/
def fineStep : FineStep → Supervisor → Supervisor × List Act
  | .whole x, s => step x s
  | .charge, s => s.charge
  | .attempt reply, s => s.attempt reply

/-- The supervisor after a run of such steps, and what is done in it. -/
def fineRun : List FineStep → Supervisor → Supervisor × List Act
  | [], s => (s, [])
  | x :: xs, s =>
    ((fineRun xs (fineStep x s).1).1, (fineStep x s).2 ++ (fineRun xs (fineStep x s).1).2)

/-- A run is a run of finer steps, all of them whole. -/
theorem fineRun_whole (xs : List Step) (s : Supervisor) :
    fineRun (xs.map .whole) s = run xs s := by
  induction xs generalizing s with
  | nil => rfl
  | cons x xs ih => simp [fineRun, run, fineStep, ih]

/-- The number of attempts that have been charged and are still to be made. -/
def held (s : Supervisor) : Nat :=
  match s.reconnector with
  | .attempting _ _ => 1
  | _ => 0

/-- A reconnector that is not about to make an attempt holds none. -/
theorem held_of_settled {s : Supervisor} (h : ∀ n wait, s.reconnector ≠ .attempting n wait) :
    s.held = 0 := by
  unfold held
  split
  · next n wait hr => exact absurd hr (h n wait)
  · rfl

/-- What is held is a matter of the reconnector. -/
theorem held_congr {s t : Supervisor} (h : t.reconnector = s.reconnector) : t.held = s.held := by
  simp only [held, h]

/-! ### The account -/

/-- Each call for a connection is one for a transport that has started or for an attempt that has
been charged; the latter may still be to come. -/
def Balanced (s : Supervisor) (acts : List Act) (t : Supervisor) : Prop :=
  requests acts + t.held = starts acts + charges acts + s.held

/-- Balanced accounts add up. -/
theorem composes_balanced : Composes Balanced := by
  refine ⟨fun s => rfl, ?_⟩
  intro s t u xs ys hst htu
  simp only [Balanced, requests_append, starts_append, charges_append] at *
  omega

/-- Quiet deeds are on neither side of the account. -/
theorem balanced_of_quiet {s t : Supervisor} {acts : List Act} (h : ∀ a ∈ acts, a.deed.IsQuiet)
    (hheld : t.held = s.held) : Balanced s acts t := by
  obtain ⟨hr, hs, hc⟩ := counts_of_quiet h
  simp [Balanced, hr, hs, hc, hheld]

/-- What a call on the transport delivers is accounted for by itself. -/
theorem requests_play (actor : Actor) (r : Reply) (s : Supervisor) :
    requests (play actor r s).2.1 = starts (play actor r s).2.1 ∧
      charges (play actor r s).2.1 = 0 := by
  have hquiet : ∀ acts : List Act, (∀ a ∈ acts, a.deed.IsQuiet) →
      requests acts = starts acts ∧ charges acts = 0 := by
    intro acts h
    obtain ⟨hr, hs, hc⟩ := counts_of_quiet h
    exact ⟨by rw [hr, hs], hc⟩
  have hR : Handles actor fun _ acts _ => requests acts = starts acts ∧ charges acts = 0 := by
    refine ⟨⟨fun _ => ⟨rfl, rfl⟩, ?_⟩, ?_, ?_, ?_, ?_⟩
    · intro s t u xs ys hx hy
      simp [hx.1, hx.2, hy.1, hy.2]
    · intro s e _
      exact hquiet _ (by simp [ignoreDeeds, note, Deed.IsQuiet])
    · -- the link is lost, or comes up
      intro s e m hm hc
      obtain rfl := LinkState.eq_move_of_next hm
      cases e with
      | started => exact absurd rfl hc
      | _ => simp [moveDeeds, note, Event.move, Deed.isStart, Deed.isCharge]
    · -- the transport has started, and is asked for a connection
      intro s e m hm hc
      obtain rfl := LinkState.eq_move_of_next hm
      cases e with
      | started => simp [moveDeeds, note, Event.move, Deed.isStart, Deed.isCharge]
      | _ => simp [Event.move] at hc
    · exact fun s ending => hquiet _ (isQuiet_connectDeeds s actor ending)
  exact hR.play r s

/-- A call on the transport, and quiet deeds before and after it. -/
theorem balanced_call (actor : Actor) (r : Reply) (t : Supervisor) {s u : Supervisor}
    {before after : List Act} (hbefore : ∀ a ∈ before, a.deed.IsQuiet)
    (hafter : ∀ a ∈ after, a.deed.IsQuiet) (hheld : u.held = s.held) :
    Balanced s (before ++ (play actor r t).2.1 ++ after) u := by
  have hcall := requests_play actor r t
  have hb := counts_of_quiet hbefore
  have ha := counts_of_quiet hafter
  simp [Balanced, hcall, hb, ha, hheld]

/-- A call for a connection is one more than those inside it. -/
theorem requests_connect (actor : Actor) (r : Reply) (s : Supervisor) :
    requests (connect actor r s).2.1 = requests (play actor r s).2.1 + 1 ∧
      starts (connect actor r s).2.1 = starts (play actor r s).2.1 ∧
      charges (connect actor r s).2.1 = 0 := by
  have hcall := requests_play actor r s
  have hline := counts_of_quiet
    (isQuiet_connectDeeds (play actor r s).1 actor (play actor r s).2.2)
  simp [connect, hcall, hline, Deed.isStart, Deed.isCharge]

/-- The attempt that was held is the one that is made. -/
theorem balanced_attempt (reply : Reply) (s : Supervisor) :
    Balanced s (s.attempt reply).2 (s.attempt reply).1 := by
  by_cases h : ∃ n wait, s.reconnector = .attempting n wait
  · obtain ⟨n, wait, hr⟩ := h
    have hcall := requests_connect .reconnector reply s
    have hplay := requests_play .reconnector reply s
    have hbefore : s.held = 1 := by simp [held, hr]
    have hafter : (s.attempt reply).1.held = 0 := by
      refine held_of_settled ?_
      rw [attempt_of_attempting reply hr]
      dsimp only
      intro n wait
      split <;> simp
    rw [Balanced, hafter, hbefore, attempt_of_attempting reply hr]
    dsimp only
    omega
  · rw [attempt_of_settled reply fun n wait hr => h ⟨n, wait, hr⟩]
    exact composes_balanced.nothing s

/-- Giving up is none of the three things that are counted. -/
theorem counts_giveUpDeeds (s : Supervisor) (n : UInt32) :
    requests (asActs .reconnector (s.giveUpDeeds n)) = 0 ∧
      starts (asActs .reconnector (s.giveUpDeeds n)) = 0 ∧
      charges (asActs .reconnector (s.giveUpDeeds n)) = 0 := by
  unfold giveUpDeeds
  split
  · next e _ =>
    cases h : e.alert <;> simp [Escalation.deeds, h, Deed.isStart, Deed.isCharge]
  · simp [note, Deed.isStart, Deed.isCharge]

/-- The attempt that is charged is held. -/
theorem balanced_charge (s : Supervisor) : Balanced s s.charge.2 s.charge.1 := by
  by_cases hd : s.IsDue
  · have hbefore : s.held = 0 := by simp [held, hd.1]
    cases ha : s.supervision.retry.allows s.backoff.attempt with
    | true =>
      have hafter : s.charged.held = 1 := rfl
      rw [charge_of_allows hd ha]
      simp [Balanced, hbefore, hafter, chargeDeeds, note, Deed.isStart, Deed.isCharge]
    | false =>
      have hafter : held { s with reconnector := .exited } = 0 := rfl
      rw [charge_of_not_allows hd ha]
      simp [Balanced, hbefore, hafter, counts_giveUpDeeds, note, Deed.isStart, Deed.isCharge]
  · have hquiet : ∀ a ∈ asActs .reconnector
        [s.note .debug "link left Disconnected, skipping attempt"], a.deed.IsQuiet := by
      simp [note, Deed.IsQuiet]
    rcases charge_of_not_due hd with hc | hc <;> rw [hc]
    · exact composes_balanced.nothing s
    · exact balanced_of_quiet hquiet rfl

/-- Only lines are written when a wait ends. -/
theorem isQuiet_wake (timeIsOver : Bool) (s : Supervisor) :
    ∀ a ∈ (s.wake timeIsOver).2, a.deed.IsQuiet := by
  unfold wake
  split
  · split
    · simp [leave, note, Deed.IsQuiet]
    split
    · simp [note, Deed.IsQuiet]
    split <;> simp [note, Deed.IsQuiet]
  · simp

/-- No attempt is held before or after the end of a wait. -/
theorem balanced_wake (timeIsOver : Bool) (s : Supervisor) :
    Balanced s (s.wake timeIsOver).2 (s.wake timeIsOver).1 := by
  refine balanced_of_quiet (isQuiet_wake timeIsOver s) ?_
  unfold wake
  split
  · next hr =>
    have hbefore : s.held = 0 := by simp [held, hr]
    rw [hbefore]
    split
    · rfl
    split
    · rfl
    split
    · rfl
    · exact hbefore
  · rfl

/-- A round of the prober asks for no connection, except in answer to what the end of a session
delivers. -/
theorem balanced_check (found : Option Probe) (reply : Reply) (s : Supervisor) :
    Balanced s (s.check found reply).2 (s.check found reply).1 := by
  have hprobe : ∀ p : Probe, ∀ a ∈ asActs .prober (.calls .probe :: s.probeDeeds p),
      a.deed.IsQuiet :=
    fun p => List.forall_mem_cons.mpr ⟨by simp [Deed.IsQuiet], isQuiet_probeDeeds s .prober p⟩
  have hmiss : ∀ p : Probe,
      ∀ a ∈ asActs .prober (.calls .probe :: (s.probeDeeds p ++ [s.missLine])), a.deed.IsQuiet := by
    intro p a ha
    rw [← List.cons_append, asActs_append] at ha
    rcases List.mem_append.mp ha with ha | ha
    · exact hprobe p a ha
    · obtain rfl := List.mem_singleton.mp ha
      trivial
  rcases check_cases (s := s) found reply with h | h | ⟨-, h⟩ | ⟨p, -, -, h⟩ |
    ⟨p, -, -, ⟨-, h⟩ | ⟨-, h⟩⟩ <;> rw [h]
  · exact composes_balanced.nothing s
  · exact balanced_of_quiet (by simp) rfl
  · exact balanced_of_quiet (by simp [Deed.IsQuiet]) rfl
  · exact balanced_of_quiet (hprobe p) rfl
  · exact balanced_of_quiet (hmiss p) rfl
  · -- the session is ended, and what that call delivers is handled
    have hbefore : ∀ a ∈ asActs .prober (.calls .probe :: (s.probeDeeds p ++ [s.missLine])) ++
        [⟨.prober, .calls .disconnect⟩], a.deed.IsQuiet := by
      intro a ha
      rcases List.mem_append.mp ha with ha | ha
      · exact hmiss p a ha
      · obtain rfl := List.mem_singleton.mp ha
        simp [Deed.IsQuiet]
    have hcall := balanced_call .prober reply { s with misses := 0 } (s := s) (u := s.ended reply)
      hbefore (isQuiet_disconnectDeeds (s.endCall reply).1 .prober (s.endCall reply).2.2)
      (held_congr (play_reconnector .prober reply { s with misses := 0 }))
    simpa [endActs, endCall] using hcall

/-- A reconnector that has been started belongs to a supervisor that counts as initialised. -/
def IsGuarded (s : Supervisor) : Prop := s.reconnector ≠ .unstarted → s.initialized = true

/-- A fresh supervisor has not started its reconnector. -/
theorem IsGuarded.unstarted {s : Supervisor} (h : s.IsGuarded) (hf : s.IsFresh) :
    s.reconnector = .unstarted := by
  refine Decidable.byContradiction fun hl => ?_
  have hi := h hl
  rw [hf.1] at hi
  cases hi

/-- What leaves the stage alone leaves it guarded. -/
theorem SameStage.isGuarded {s t : Supervisor} (h : SameStage s t) (hs : s.IsGuarded) :
    t.IsGuarded := by
  intro hl
  rw [h.initialized]
  exact hs fun hr => hl (h.unstarted.mpr hr)

/-- An initialisation is marked before it starts the workers. -/
theorem IsGuarded.init {s : Supervisor} (h : s.IsGuarded) (reply : Reply) :
    (s.init reply).1.IsGuarded := by
  by_cases hf : s.IsFresh
  · have hstage : SameStage { s with initialized := true } (s.startCall reply).1 :=
      sameStage_play .caller reply _
    rcases hend : (s.startCall reply).2.2 with (e | _) | _
    · rw [init_of_failed reply hf hend]
      exact fun hl => absurd (hstage.unstarted.mpr (h.unstarted hf)) hl
    · rw [init_of_started reply hf hend]
      exact fun _ => hstage.initialized
    · rw [init_of_died reply hf hend]
      exact fun _ => hstage.initialized
  · rw [init_of_refused reply hf]
    exact fun _ => rfl

/-- **No step starts the reconnector of a supervisor that does not count as initialised.** -/
theorem IsGuarded.fineStep {s : Supervisor} (h : s.IsGuarded) (x : FineStep) :
    (fineStep x s).1.IsGuarded := by
  cases x with
  | charge => exact (sameStage_charge s).isGuarded h
  | attempt reply => exact (sameStage_attempt reply s).isGuarded h
  | whole x =>
    cases x with
    | init reply => exact h.init reply
    | stop reply =>
      obtain ⟨hr, hi, -⟩ := stage_stop reply s
      exact fun hl => hi.trans (h fun hu => hl (hr.mpr hu))
    | _ => exact (sameStage_step (by simp) (by simp) s).isGuarded h

/-- An initialisation asks for a connection only while the transport is started. -/
theorem balanced_init (reply : Reply) {s : Supervisor} (h : s.IsGuarded) :
    Balanced s (s.init reply).2.1 (s.init reply).1 := by
  by_cases hf : s.IsFresh
  · have hr := h.unstarted hf
    have hbefore : ∀ a ∈ asActs .caller [.calls .bind, .calls .start], a.deed.IsQuiet := by
      simp [Deed.IsQuiet]
    have hheld := held_congr (play_reconnector .caller reply { s with initialized := true })
    rcases hend : (s.startCall reply).2.2 with (e | _) | _
    · rw [init_of_failed reply hf hend]
      exact balanced_call .caller reply { s with initialized := true } hbefore
        (by simp [note, Deed.IsQuiet]) hheld
    · rw [init_of_started reply hf hend]
      refine balanced_call .caller reply { s with initialized := true } hbefore
        (by simp [startWorkers, note, Deed.IsQuiet]) ?_
      simp [held, hr, startWorkers]
    · -- where the caller dies in the start, nothing is done after it
      rw [init_of_died reply hf hend]
      have hnothing : ∀ a ∈ ([] : List Act), a.deed.IsQuiet := by simp
      have hcall := balanced_call .caller reply { s with initialized := true } hbefore hnothing
        hheld
      rwa [List.append_nil] at hcall
  · rw [init_of_refused reply hf]
    exact balanced_of_quiet (by simp) rfl

/-- A stop makes an attempt that is held, and no other. -/
theorem balanced_stop (reply : Reply) (s : Supervisor) :
    Balanced s (s.stop reply).2 (s.stop reply).1 := by
  have hleave : ∀ t : Supervisor, t.held = 0 → Balanced t t.leave.2 t.leave.1 := by
    intro t ht
    exact balanced_of_quiet (by simp [leave, note, Deed.IsQuiet]) (by rw [ht]; rfl)
  have hfinish : ∀ t : Supervisor, Balanced t (t.finish reply).2 (t.finish reply).1 := by
    intro t
    unfold finish
    split
    · exact composes_balanced.andThen (balanced_attempt reply t) (balanced_wake false _)
    · next hr => exact hleave t (by simp [held, hr])
    · next hr => exact hleave t (by simp [held, hr])
    · exact composes_balanced.nothing t
  have hjoin : ∀ t : Supervisor, Balanced t t.join.2 t.join.1 := by
    intro t
    exact balanced_of_quiet (isQuiet_join t) (held_congr (by rw [join_frame]))
  exact composes_balanced.andThen (t := (s.requestStop.finish reply).1) (hfinish s.requestStop)
    (hjoin _)

/-- **The account of a step balances.** -/
theorem balanced_fineStep (x : FineStep) {s : Supervisor} (h : s.IsGuarded) :
    Balanced s (fineStep x s).2 (fineStep x s).1 := by
  cases x with
  | charge => exact balanced_charge s
  | attempt reply => exact balanced_attempt reply s
  | whole x =>
    cases x with
    | deliver actor e reply =>
      obtain ⟨hr, hc⟩ := requests_play actor (.delivers e reply .done) s
      have hheld := held_congr (play_reconnector actor (.delivers e reply .done) s)
      simp [Balanced, fineStep, step, handle, hr, hc, hheld]
    | turn reply => exact composes_balanced.andThen (balanced_charge s) (balanced_attempt reply _)
    | wake timeIsOver => exact balanced_wake timeIsOver s
    | check found reply => exact balanced_check found reply s
    | init reply => exact balanced_init reply h
    | requestStop => exact balanced_of_quiet (by simp [fineStep, step]) rfl
    | stop reply => exact balanced_stop reply s

/-- **The account of a run balances**, in whatever order its steps come. -/
theorem balanced_fineRun (xs : List FineStep) {s : Supervisor} (h : s.IsGuarded) :
    Balanced s (fineRun xs s).2 (fineRun xs s).1 := by
  induction xs generalizing s with
  | nil => exact composes_balanced.nothing s
  | cons x xs ih => exact composes_balanced.andThen (balanced_fineStep x h) (ih (h.fineStep x))

/-! ### What each thing contributes -/

/-- What a supervisor in this state asks its transport for, whatever happens next. -/
structure Asks (s : Supervisor) : Prop where
  /-- A `started` event that is accepted leads to one call, apart from those made inside it. -/
  started : ∀ actor reply m, s.state.next .started = some m →
    requests (s.handle actor .started reply).2.1 =
        requests (play actor reply (s.moved m)).2.1 + 1 ∧
      starts (s.handle actor .started reply).2.1 = starts (play actor reply (s.moved m)).2.1 + 1
  /-- The loss of the link, its arrival and an event that is ignored lead to none. -/
  others : ∀ actor e reply, e ≠ .started ∨ s.state.next e = none →
    requests (s.handle actor e reply).2.1 = 0 ∧ starts (s.handle actor e reply).2.1 = 0
  /-- Only a turn charges an attempt, and only while the link is down and no stop is requested. -/
  due : ∀ x, charges (fineStep x s).2 ≠ 0 →
    (x = .charge ∨ ∃ reply, x = .whole (.turn reply)) ∧ s.state = .disconnected ∧
      s.stopping = false
  /-- A turn at any other moment is skipped. -/
  skipped : s.state ≠ .disconnected ∨ s.stopping = true → s.held = 0 → ∀ reply,
    (s.turn reply).1 = s ∧ requests (s.turn reply).2 = 0 ∧ charges (s.turn reply).2 = 0
  /-- One that finds the budget used up charges nothing and makes no call. -/
  exhausted : s.IsDue → s.supervision.retry.allows s.backoff.attempt = false → ∀ reply,
    (s.turn reply).1.backoff = s.backoff ∧ requests (s.turn reply).2 = 0 ∧
      charges (s.turn reply).2 = 0
  /-- One that finds an attempt left charges it and makes one call, apart from those inside it. -/
  retried : s.IsDue → s.supervision.retry.allows s.backoff.attempt = true → ∀ reply,
    requests s.charge.2 = 0 ∧ charges (s.turn reply).2 = 1 ∧
      requests (s.turn reply).2 = requests (play .reconnector reply s.charged).2.1 + 1
  /-- The end of a wait makes no call. -/
  woken : ∀ timeIsOver, requests (s.wake timeIsOver).2 = 0 ∧ charges (s.wake timeIsOver).2 = 0
  /-- Nor does a stop, unless an attempt is still to be made. -/
  stopped : ∀ reply, s.held = 0 → requests (s.stop reply).2 = 0

/-- The start of the transport is answered by one call, and what happens inside that call is counted
by itself. -/
theorem requests_handle_started {s : Supervisor} {m : Move} (h : s.state.next .started = some m)
    (actor : Actor) (reply : Reply) :
    requests (s.handle actor .started reply).2.1 =
      requests (play actor reply (s.moved m)).2.1 + 1 := by
  obtain rfl := LinkState.eq_move_of_next h
  have hmove : requests (asActs actor (s.moveDeeds .started Event.started.move)) = 0 := by
    simp [moveDeeds, note]
  have hcall := (requests_connect actor reply (s.moved Event.started.move)).1
  unfold handle
  rcases hend : (connect actor reply (s.moved Event.started.move)).2.2 with result | _
  · rw [play_started_of_returned h rfl hend]
    simp [Reply.done, hmove, hcall]
  · rw [play_started_of_died h rfl hend]
    simp [hmove, hcall]

/-- No other event is answered by a call. -/
theorem requests_handle_other {s : Supervisor} {e : Event}
    (h : e ≠ .started ∨ s.state.next e = none) (actor : Actor) (reply : Reply) :
    requests (s.handle actor e reply).2.1 = 0 := by
  unfold handle
  rcases hm : s.state.next e with _ | m
  · rw [play_ignored hm]
    simp [Reply.done, ignoreDeeds, note]
  · obtain rfl := LinkState.eq_move_of_next hm
    have hne : e ≠ .started := h.resolve_right (by simp [hm])
    have hact : e.move.action ≠ some .connect := by
      cases e <;> simp_all [Event.move]
    rw [play_moved hm hact]
    simp [Reply.done, moveDeeds, note]

/-- Only a turn charges attempts. -/
theorem charges_step_of_no_turn {x : Step} (hx : ∀ reply, x ≠ .turn reply) (s : Supervisor) :
    charges (step x s).2 = 0 := by
  have hR : Steady fun _ acts _ => ∀ a ∈ acts, a.deed.isCharge = false := by
    refine steady_deeds (P := fun d => d.isCharge = false) ?_ (fun _ _ => rfl) rfl
    intro d hd
    cases d <;> simp_all [Deed.IsQuiet, Deed.isCharge]
  have hnone := hR.step (x := x) (s := s) fun reply hturn => absurd hturn (hx reply)
  simpa [charges, List.countP_eq_zero] using hnone

/-- To make an attempt charges none. -/
theorem charges_attempt (reply : Reply) (s : Supervisor) : charges (s.attempt reply).2 = 0 := by
  by_cases h : ∃ n wait, s.reconnector = .attempting n wait
  · obtain ⟨n, wait, hr⟩ := h
    rw [attempt_of_attempting reply hr]
    exact (requests_connect .reconnector reply s).2.2
  · rw [attempt_of_settled reply fun n wait hr => h ⟨n, wait, hr⟩]
    rfl

/-- A charge that is not due leaves the supervisor as it is. -/
theorem counts_charge_of_not_due {s : Supervisor} (h : ¬ s.IsDue) :
    s.charge.1 = s ∧ requests s.charge.2 = 0 ∧ charges s.charge.2 = 0 := by
  rcases charge_of_not_due h with hc | hc <;> simp [hc, note, Deed.isCharge]

/-- A charge is one, and no call. -/
theorem counts_chargeDeeds (s : Supervisor) :
    requests (asActs .reconnector s.chargeDeeds) = 0 ∧
      charges (asActs .reconnector s.chargeDeeds) = 1 := by
  simp [chargeDeeds, note, Deed.isCharge]

/-- A stop is quiet where no attempt is held. -/
theorem isQuiet_stop {s : Supervisor} (h : ∀ n wait, s.reconnector ≠ .attempting n wait)
    (reply : Reply) : ∀ a ∈ (s.stop reply).2, a.deed.IsQuiet := by
  have hfinish : ∀ a ∈ (s.requestStop.finish reply).2, a.deed.IsQuiet := by
    unfold finish
    split
    · next n wait hr => exact absurd hr (h n wait)
    · simp [leave, note, Deed.IsQuiet]
    · simp [leave, note, Deed.IsQuiet]
    · simp
  intro a ha
  rcases List.mem_append.mp ha with ha | ha
  · exact hfinish a ha
  · exact isQuiet_join _ a ha

/-- Where nothing is held the reconnector is not about to make an attempt. -/
theorem settled_of_held {s : Supervisor} (h : s.held = 0) :
    ∀ n wait, s.reconnector ≠ .attempting n wait := by
  intro n wait hr
  simp [held, hr] at h

/-- **What can be asked for is known at every moment.** -/
theorem asks (s : Supervisor) : Asks s := by
  have hnotDue : s.state ≠ .disconnected ∨ s.stopping = true → ¬ s.IsDue := by
    rintro h ⟨-, hs, hd⟩
    rcases h with h | h
    · exact h hd
    · rw [hs] at h
      cases h
  have hcharged : charges s.charge.2 ≠ 0 → s.IsDue := fun hc =>
    Decidable.byContradiction fun hd => hc (counts_charge_of_not_due hd).2.2
  -- an event is a call that delivers it
  have hevent : ∀ actor e reply,
      starts (s.handle actor e reply).2.1 = requests (s.handle actor e reply).2.1 :=
    fun actor e reply => (requests_play actor (.delivers e reply .done) s).1.symm
  refine ⟨?_, ?_, ?_, ?_, ?_, ?_, ?_, ?_⟩
  · intro actor reply m hm
    have hcalls := requests_handle_started hm actor reply
    refine ⟨hcalls, ?_⟩
    rw [hevent, hcalls, (requests_play actor reply (s.moved m)).1]
  · intro actor e reply he
    have hcalls := requests_handle_other he actor reply
    exact ⟨hcalls, (hevent actor e reply).trans hcalls⟩
  · intro x hx
    cases x with
    | charge =>
      have hd := hcharged hx
      exact ⟨.inl rfl, hd.2.2, hd.2.1⟩
    | attempt reply => exact absurd (charges_attempt reply s) hx
    | whole x =>
      by_cases hturn : ∃ reply, x = .turn reply
      · obtain ⟨reply, rfl⟩ := hturn
        have hsum : charges (s.turn reply).2 = charges s.charge.2 := by
          simp [turn, charges_attempt]
        have hd := hcharged (hsum ▸ hx)
        exact ⟨.inr ⟨reply, rfl⟩, hd.2.2, hd.2.1⟩
      · exact absurd (charges_step_of_no_turn (fun reply h => hturn ⟨reply, h⟩) s) hx
  · intro hs hheld reply
    obtain ⟨hsame, hquiet⟩ := turn_of_not_due reply (hnotDue hs) (settled_of_held hheld)
    have hcounts := counts_of_quiet hquiet
    exact ⟨hsame, hcounts.1, hcounts.2.2⟩
  · intro hd ha reply
    rw [turn_of_not_allows reply hd ha]
    simp [counts_giveUpDeeds, note, Deed.isCharge]
  · intro hd ha reply
    obtain ⟨hr, hc⟩ := counts_chargeDeeds s
    obtain ⟨hcalls, -, hnone⟩ := requests_connect .reconnector reply s.charged
    rw [turn_of_allows reply hd ha, charge_of_allows hd ha]
    simp only [requests_append, charges_append, hr, hc, hcalls, hnone, Nat.zero_add, and_self]
  · intro timeIsOver
    have hcounts := counts_of_quiet (isQuiet_wake timeIsOver s)
    exact ⟨hcounts.1, hcounts.2.2⟩
  · intro reply hheld
    exact (counts_of_quiet (isQuiet_stop (settled_of_held hheld) reply)).1

/-! ### The account of a new supervisor -/

/-- **Every call for a connection is accounted for.** In a run of a new supervisor there are as many
as `started` events have been accepted and attempts have been charged. If other things happen
between the charge of an attempt and its call, an attempt that is still held is to be added to the
calls. At every moment it is known what each thing that can happen next contributes to the two
sides. -/
theorem requests_accounted (id : String) (c : Supervision) :
    (∀ xs : List Step, requests (run xs (make id c)).2 =
      starts (run xs (make id c)).2 + charges (run xs (make id c)).2) ∧
    ∀ xs : List FineStep,
      let s := (fineRun xs (make id c)).1
      let acts := (fineRun xs (make id c)).2
      requests acts + s.held = starts acts + charges acts ∧ Asks s := by
  have hbalance : ∀ xs : List FineStep, Balanced (make id c) (fineRun xs (make id c)).2
      (fineRun xs (make id c)).1 := fun xs => balanced_fineRun xs fun h => absurd rfl h
  refine ⟨fun xs => ?_, fun xs => ⟨hbalance xs, asks _⟩⟩
  have hheld : (run xs (make id c)).1.held = 0 := held_of_settled (orderly_run id c xs).settled
  have h := hbalance (xs.map .whole)
  rw [fineRun_whole, Balanced, hheld] at h
  exact h

/-- The link comes up by itself while an attempt is held. The attempt is made all the same, and
within its call the link is lost and the transport starts again: three calls, of which one was
charged. -/
example :
    let xs : List FineStep := [
      .whole (.init (.delivers .started .done .done)), .whole (.deliver .caller (.lost none) .done),
      .charge, .whole (.deliver .caller (.established none) .done),
      .attempt (.delivers (.lost none) .done (.delivers .started .done .done))]
    let acts := (fineRun xs (make "WifiLink" .persistent)).2
    requests acts = 3 ∧ starts acts = 2 ∧ charges acts = 1 := by
  decide

end Supervisor

end LinkWarden

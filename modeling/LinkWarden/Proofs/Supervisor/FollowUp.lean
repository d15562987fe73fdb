import LinkWarden.Proofs.Supervisor.Phase
import LinkWarden.Proofs.Supervisor.Rounds

/-!
# What follows a call for a connection that fails

A supervisor asks its transport for a connection in two places. The reconnector does so when the
link is down, and the transport's start makes the supervisor do so while the link is connecting.
Either call may fail at once, so that no event ever tells of it.

* `OwnCallFails` and `StartCallFails` are the two ways in which a step ends with such a failure. The
  second one may happen deep inside another call on the transport.
* `goesOn_iff_of_call_fails`: only the first one is followed up. After the second one the link is
  connecting, the reconnector waits for its loss, and nothing but an event changes that
  (`IsParked`).
-/

namespace LinkWarden.Supervisor

/-! ### Calls that fail -/

/-- The last thing that comes of this call on the transport is that the transport has started, and
that the call for a connection that follows fails at once. -/
inductive StartFails (actor : Actor) : Reply → Supervisor → Prop
  | here {s m error result} (hm : s.state.next .started = some m) :
    StartFails actor (.delivers .started (.returns (.error error)) (.returns result)) s
  | inside {s m nested result} (hm : s.state.next .started = some m)
    (h : StartFails actor nested (s.moved m)) :
    StartFails actor (.delivers .started nested (.returns result)) s
  | afterIgnored {s e nested rest} (he : s.state.next e = none) (h : StartFails actor rest s) :
    StartFails actor (.delivers e nested rest) s
  | afterMove {s e m nested rest} (hm : s.state.next e = some m) (hc : m.action ≠ some .connect)
    (h : StartFails actor rest (s.moved m)) : StartFails actor (.delivers e nested rest) s
  | afterCall {s m nested rest result} (hm : s.state.next .started = some m)
    (hr : (connect actor nested (s.moved m)).2.2 = .returned result)
    (h : StartFails actor rest (connect actor nested (s.moved m)).1) :
    StartFails actor (.delivers .started nested rest) s

/-- The step is a turn of the reconnector that charges an attempt, and its call fails at once. -/
def OwnCallFails (s : Supervisor) (x : Step) : Prop :=
  s.IsDue ∧ s.supervision.retry.allows s.backoff.attempt = true ∧
    ∃ error, x = .turn (.returns (.error error))

/-- In the step the transport starts, the call for a connection that follows fails at once, and
nothing else is delivered. -/
inductive StartCallFails (s : Supervisor) : Step → Prop
  | deliver {actor e reply} (h : StartFails actor (.delivers e reply .done) s) :
    StartCallFails s (.deliver actor e reply)
  | turn {reply} (hd : s.IsDue) (ha : s.supervision.retry.allows s.backoff.attempt = true)
    (h : StartFails .reconnector reply s.charged) : StartCallFails s (.turn reply)
  | check {p reply} (hp : s.probing = true) (hs : s.stopping = false) (hc : s.state = .connected)
    (hr : p.reachable = false) (hm : s.supervision.health.threshold ≤ s.misses + 1)
    (h : StartFails .prober reply { s with misses := 0 }) : StartCallFails s (.check (some p) reply)
  | init {reply} (hi : s.initialized = false) (hs : s.state = .notInitialized)
    (h : StartFails .caller reply { s with initialized := true }) : StartCallFails s (.init reply)

/-! ### Going on -/

/-- A run leads to this supervisor. -/
def IsReachable (s : Supervisor) : Prop := ∃ id c xs, (run xs (make id c)).1 = s

/-- So no attempt is held in it. -/
theorem IsReachable.orderly {s : Supervisor} (h : s.IsReachable) : Orderly s := by
  obtain ⟨id, c, xs, rfl⟩ := h
  exact orderly_run id c xs

/-- The supervisor goes on by itself: when the wait is over, the next turn of the reconnector calls
the transport or escalates. -/
def GoesOn (s : Supervisor) : Prop :=
  ∀ reply, ∃ a ∈ ((s.wake true).1.turn reply).2,
    a = ⟨.reconnector, .calls .connect⟩ ∨ a.deed = .restarts

/-- There is another attempt, or an escalation. -/
def HasRecourse (s : Supervisor) : Prop :=
  s.supervision.retry.allows s.backoff.attempt = true ∨ s.supervision.escalation.isSome

/-- A step that the workers take by themselves. -/
inductive Step.IsOwn : Step → Prop
  | turn (reply : Reply) : IsOwn (.turn reply)
  | wake (timeIsOver : Bool) : IsOwn (.wake timeIsOver)
  | check (found : Option Probe) (reply : Reply) : IsOwn (.check found reply)

/-- Whatever the workers do by themselves, the link stays connecting and nothing comes of it. -/
def IsParked (s : Supervisor) : Prop :=
  ∀ ys : List Step, (∀ y ∈ ys, y.IsOwn) →
    (run ys s).1.state = .connecting ∧ ∀ a ∈ (run ys s).2, a.deed.IsQuiet

/-! ### After the own call -/

/-- A reconnector that waits for a link that is down goes on when the time is over, unless it has to
give up. -/
theorem goesOn_of_awaiting {s : Supervisor} {n : UInt32} {wait : Duration}
    (hr : s.reconnector = .awaiting n wait) (hs : s.stopping = false)
    (hd : s.state = .disconnected) (h : s.HasRecourse) : s.GoesOn := by
  have hwake : (s.wake true).1 = { s with reconnector := .idle } := by
    simp [wake, hr, hs, hd, isConnected]
  have hdue : IsDue { s with reconnector := .idle } := ⟨rfl, hs, hd⟩
  intro reply
  rw [hwake]
  cases ha : s.supervision.retry.allows s.backoff.attempt with
  | true =>
    refine ⟨⟨.reconnector, .calls .connect⟩, ?_, .inl rfl⟩
    rw [turn_of_allows reply hdue ha]
    simp [connect]
  | false =>
    rcases h with h | h
    · rw [ha] at h
      cases h
    · obtain ⟨e, he⟩ := Option.isSome_iff_exists.mp h
      refine ⟨⟨.reconnector, .restarts⟩, ?_, .inr rfl⟩
      rw [turn_of_not_allows reply hdue ha]
      simp [giveUpDeeds, he, Escalation.deeds]

/-- **When its own call fails, the reconnector goes on.** -/
theorem goesOn_of_ownCallFails {s : Supervisor} {x : Step} (hx : OwnCallFails s x)
    (hrecourse : (step x s).1.HasRecourse) : (step x s).1.GoesOn := by
  obtain ⟨hd, ha, error, rfl⟩ := hx
  obtain ⟨n, wait, hstep⟩ : ∃ n wait, (step (.turn (.returns (.error error))) s).1 =
      { s.charged with reconnector := .awaiting n wait } := by
    refine ⟨Backoff.countUp s.backoff.attempt, s.supervision.retry.delay s.backoff.attempt, ?_⟩
    rw [step, turn_of_allows _ hd ha, attempt_of_attempting (s := s.charged) _ rfl]
    rfl
  have hr : (step (.turn (.returns (.error error))) s).1.reconnector = .awaiting n wait := by
    rw [hstep]
  refine goesOn_of_awaiting hr ?_ ?_ hrecourse
  · rw [hstep]
    exact hd.2.1
  · rw [hstep]
    exact hd.2.2

/-! ### After the call at the start -/

/-- Such a call leaves the link connecting, and it returns. -/
theorem StartFails.play {actor : Actor} {r : Reply} {s : Supervisor} (h : StartFails actor r s) :
    (play actor r s).1.state = .connecting ∧
      ∃ result, (play actor r s).2.2 = .returned result := by
  induction h with
  | @here s m error result hm =>
    obtain rfl := LinkState.eq_move_of_next hm
    have hr : (connect actor (.returns (.error error)) (s.moved Event.started.move)).2.2 =
        .returned (.error error) := rfl
    rw [play_started_of_returned hm rfl hr]
    exact ⟨by simp [connect, Event.move], _, rfl⟩
  | @inside s m nested _ hm _ ih =>
    obtain ⟨hstate, result, hr⟩ := ih
    obtain rfl := LinkState.eq_move_of_next hm
    have hr' : (connect actor nested (s.moved Event.started.move)).2.2 = .returned result := hr
    rw [play_started_of_returned hm rfl hr']
    exact ⟨hstate, _, rfl⟩
  | afterIgnored he _ ih =>
    rw [play_ignored he]
    exact ih
  | afterMove hm hc _ ih =>
    rw [play_moved hm hc]
    exact ih
  | afterCall hm hr _ ih =>
    obtain rfl := LinkState.eq_move_of_next hm
    rw [play_started_of_returned hm rfl hr]
    exact ih

/-- An initialisation moves the link as the start of the transport does. -/
theorem init_state {s : Supervisor} (hi : s.initialized = false) (hs : s.state = .notInitialized)
    (reply : Reply) :
    (s.init reply).1.state = (play .caller reply { s with initialized := true }).1.state := by
  unfold Supervisor.init
  rw [if_neg (by simp [hi, hs])]
  dsimp only
  split <;> rfl

/-- After a step that ends with such a call the link is connecting. -/
theorem state_of_startCallFails {s : Supervisor} {x : Step} (hx : StartCallFails s x) :
    (step x s).1.state = .connecting := by
  cases hx with
  | deliver h => exact h.play.1
  | turn hd ha h =>
    rw [step, turn_of_allows _ hd ha, attempt_of_attempting (s := s.charged) _ rfl]
    exact h.play.1
  | check hp hs hc hr hm h =>
    rw [step, check_of_enough _ ⟨hp, hs, hc⟩ hr hm]
    exact h.play.1
  | init hi hs h => exact (init_state hi hs _).trans h.play.1

/-- While the link is connecting, what the workers do by themselves changes nothing about that. -/
theorem connecting_step {s : Supervisor} (h : Orderly s) (hc : s.state = .connecting) {y : Step}
    (hy : y.IsOwn) :
    (step y s).1.state = .connecting ∧ ∀ a ∈ (step y s).2, a.deed.IsQuiet := by
  cases hy with
  | turn reply =>
    have hd : ¬ s.IsDue := fun hd => by simp [hd.2.2] at hc
    have hturn := turn_of_not_due reply hd h.settled
    exact ⟨by rw [step, hturn.1, hc], hturn.2⟩
  | wake timeIsOver =>
    rw [step]
    unfold wake
    split
    · split
      · simp [leave, hc, note, Deed.IsQuiet]
      split
      · next hup => simp [isConnected, hc] at hup
      split <;> simp [hc, note, Deed.IsQuiet]
    · simp [hc]
  | check found reply =>
    rw [step]
    unfold check
    split
    · simp [hc]
    · simp [isConnected, hc]

/-- **A link that is connecting stays so until an event arrives.** -/
theorem isParked_of_connecting {s : Supervisor} (h : Orderly s) (hc : s.state = .connecting) :
    s.IsParked := by
  intro ys hys
  induction ys generalizing s with
  | nil => exact ⟨hc, fun a ha => absurd ha List.not_mem_nil⟩
  | cons y ys ih =>
    obtain ⟨hstate, hquiet⟩ := connecting_step h hc (hys y List.mem_cons_self)
    obtain ⟨hlater, hquiets⟩ := ih (h.step y) hstate fun z hz => hys z (List.mem_cons_of_mem y hz)
    refine ⟨hlater, ?_⟩
    intro a ha
    rcases List.mem_append.mp ha with ha | ha
    · exact hquiet a ha
    · exact hquiets a ha

/-- A supervisor that is parked does not go on. -/
theorem IsParked.not_goesOn {s : Supervisor} (h : s.IsParked) : ¬ s.GoesOn := by
  intro hg
  obtain ⟨a, ha, hcall⟩ := hg .done
  have hown : ∀ y ∈ [Step.wake true, .turn .done], y.IsOwn := by
    intro y hy
    simp only [List.mem_cons, List.not_mem_nil, or_false] at hy
    rcases hy with rfl | rfl
    · exact .wake true
    · exact .turn .done
  have hq : a.deed.IsQuiet := (h _ hown).2 a (by simp [run, step, ha])
  rcases hcall with rfl | hr
  · exact hq rfl
  · rw [hr] at hq
    exact hq

/-- **A call for a connection that fails at once is followed up just if the reconnector has made
it.** Then the reconnector goes on after its wait, as long as there is another attempt or an
escalation. If the call followed the start of the transport, the link is left connecting, and only
an event can move it. -/
theorem goesOn_iff_of_call_fails {s : Supervisor} (hs : s.IsReachable) {x : Step}
    (hx : OwnCallFails s x ∨ StartCallFails s x) (hrecourse : (step x s).1.HasRecourse) :
    ((step x s).1.GoesOn ↔ OwnCallFails s x) ∧
      (StartCallFails s x → (step x s).1.state = .connecting ∧ (step x s).1.IsParked) := by
  have hparked : StartCallFails s x → (step x s).1.IsParked := fun h =>
    isParked_of_connecting (hs.orderly.step x) (state_of_startCallFails h)
  refine ⟨⟨?_, fun h => goesOn_of_ownCallFails h hrecourse⟩, ?_⟩
  · intro hg
    rcases hx with h | h
    · exact h
    · exact absurd hg (hparked h).not_goesOn
  · exact fun h => ⟨state_of_startCallFails h, hparked h⟩

/-- After the loss of a link that was up, an attempt that fails at once is followed by another. -/
theorem goesOn_after_failed_attempt :
    let s := (run [.init (.delivers .started .done .done), .deliver .caller (.lost none) .done]
      (make "WifiLink" .persistent)).1
    (step (.turn (.returns (.error (.transport "radio off")))) s).1.GoesOn := by
  intro s
  have hown : OwnCallFails s (.turn (.returns (.error (.transport "radio off")))) :=
    ⟨by decide, rfl, _, rfl⟩
  exact (goesOn_iff_of_call_fails ⟨_, _, _, rfl⟩ (.inl hown) (.inl rfl)).1.mpr hown

/-- When the first call for a connection fails at once, the supervisor is initialised, has not been
stopped and may make attempts without end, and yet it never does. -/
theorem not_goesOn_after_failed_start :
    let s := make "WifiLink" .persistent
    let x : Step := .init (.delivers .started (.returns (.error (.transport "radio off"))) .done)
    let t := (step x s).1
    StartCallFails s x ∧ t.initialized = true ∧ t.stopping = false ∧ t.HasRecourse ∧
      t.state = .connecting ∧ t.reconnector = .idle ∧ ¬ t.GoesOn := by
  intro s x t
  have hx : StartCallFails s x := .init rfl rfl (.here rfl)
  have ht : Orderly t := (orderly_make _ _).step x
  exact ⟨hx, rfl, rfl, .inl rfl, rfl, rfl, (isParked_of_connecting ht rfl).not_goesOn⟩

end LinkWarden.Supervisor

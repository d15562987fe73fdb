import LinkWarden.Proofs.Supervisor.Phase

/-!
# The backoff counts the attempts since the link was last up

What a supervisor has done tells which attempts it has charged since the link was last up
(`Attempt.sinceUp`). The backoff is written from two places, the handling of events and the
reconnector, and yet it can be read off the acts alone.

* `Tracks` is the invariant that ties the backoff to the attempts. `tracks_run` says that it holds
  after every run.
* `Tracks.backoff_step`: nothing but a charge or the arrival of the link changes the backoff.
* `backoff_counts_attempts` says all of this of every reachable state: the backoff counts the
  attempts, and its wait is that of the latest one.
-/

namespace LinkWarden

/-! ### Attempts in what has been done -/

/-- An attempt that has been charged. -/
structure Attempt where
  /-- The wait that the charge asked for. -/
  wait : Duration
  /-- Whether the transport has been asked for a connection since. -/
  made : Bool
  deriving DecidableEq, Repr

namespace Attempt

/-- The latest attempt has been made. -/
def makeLatest : List Attempt → List Attempt
  | [] => []
  | a :: as => { a with made := true } :: as

/-- The attempts since the link was last up, the latest first, after one more act. -/
def afterAct (as : List Attempt) (a : Act) : List Attempt :=
  match a.deed with
  | .charges wait => ⟨wait, false⟩ :: as
  | .calls .connect => if a.actor = .reconnector then makeLatest as else as
  | .moves _ .connected => []
  | _ => as

/-- The attempts since the link was last up, the latest first, after more acts. -/
def after (as : List Attempt) (acts : List Act) : List Attempt := acts.foldl afterAct as

/-- The attempts since the link was last up, the latest first, or since the supervisor was made if
the link has never been up. -/
def sinceUp (acts : List Act) : List Attempt := after [] acts

/-- Where nothing is done there are the same attempts. -/
@[simp] theorem after_nil (as : List Attempt) : after as [] = as := rfl

/-- The first act counts before the other ones. -/
@[simp] theorem after_cons (as : List Attempt) (a : Act) (acts : List Act) :
    after as (a :: acts) = after (afterAct as a) acts := rfl

/-- The acts of a second run count after those of the first one. -/
@[simp] theorem after_append (as : List Attempt) (xs ys : List Act) :
    after as (xs ++ ys) = after (after as xs) ys :=
  List.foldl_append

/-- An attempt that is made is still one attempt. -/
@[simp] theorem length_makeLatest (as : List Attempt) : (makeLatest as).length = as.length := by
  cases as <;> rfl

/-- An attempt that is made has the wait that it was charged with. -/
@[simp] theorem map_wait_makeLatest (as : List Attempt) :
    (makeLatest as).map wait = as.map wait := by
  cases as <;> rfl

/-- A quiet act is neither a charge nor a call, and no link comes up by it. -/
theorem afterAct_of_quiet (as : List Attempt) {a : Act} (h : a.deed.IsQuiet) :
    afterAct as a = as := by
  unfold afterAct
  split <;> simp_all [Deed.IsQuiet]

/-- Quiet acts have no bearing on the attempts. -/
theorem after_of_quiet (as : List Attempt) {acts : List Act} (h : ∀ a ∈ acts, a.deed.IsQuiet) :
    after as acts = as := by
  induction acts with
  | nil => rfl
  | cons a acts ih =>
    rw [after_cons, afterAct_of_quiet as (h a List.mem_cons_self)]
    exact ih fun b hb => h b (List.mem_cons_of_mem a hb)

end Attempt

/-- Whether a deed bears on the retry progress: an attempt is charged, or the link comes up. -/
def Deed.bearsOnProgress : Deed → Bool
  | .charges _ => true
  | .moves _ .connected => true
  | _ => false

/-- Acts without bearing on the progress leave the attempts and their waits as they are. -/
theorem Attempt.map_wait_after (as : List Attempt) {acts : List Act}
    (h : ∀ a ∈ acts, a.deed.bearsOnProgress = false) :
    (after as acts).map wait = as.map wait := by
  induction acts generalizing as with
  | nil => rfl
  | cons a acts ih =>
    have ha : (afterAct as a).map wait = as.map wait := by
      have hb := h a List.mem_cons_self
      unfold afterAct
      split
      · next hd => simp [hd, Deed.bearsOnProgress] at hb
      · split <;> simp
      · next hd => simp [hd, Deed.bearsOnProgress] at hb
      · rfl
    rw [after_cons, ih _ fun b hb => h b (List.mem_cons_of_mem a hb), ha]

/-! ### Progress as a function of the attempts -/

namespace Backoff

/-- The progress after attempts with these waits, the latest first. -/
def ofWaits (p : RetryPolicy) (waits : List Duration) : Backoff :=
  { attempt := UInt32.ofNat (min (UInt32.size - 1) waits.length)
    currentDelay := waits.headD (p.delay 0) }

/-- Before the first attempt the progress is the initial one. -/
theorem ofWaits_nil (p : RetryPolicy) : ofWaits p [] = initial p := rfl

/-- The count is that of the attempts, held at the largest number of 32 bits. -/
theorem toNat_attempt_ofWaits (p : RetryPolicy) (waits : List Duration) :
    (ofWaits p waits).attempt.toNat = min (UInt32.size - 1) waits.length := by
  rw [ofWaits, UInt32.toNat_ofNat']
  apply Nat.mod_eq_of_lt
  exact Nat.lt_of_le_of_lt (Nat.min_le_left _ _) (by decide)

/-- One more attempt. -/
theorem ofWaits_cons (p : RetryPolicy) (wait : Duration) (waits : List Duration) :
    ofWaits p (wait :: waits) = ⟨countUp (ofWaits p waits).attempt, wait⟩ := by
  have h : (ofWaits p (wait :: waits)).attempt = countUp (ofWaits p waits).attempt := by
    apply UInt32.toNat_inj.mp
    rw [toNat_countUp, toNat_attempt_ofWaits, toNat_attempt_ofWaits, List.length_cons]
    omega
  rw [← h]
  rfl

end Backoff

/-! ### The invariant -/

namespace Supervisor

/-- The supervisor has made these attempts since its link was last up, the latest first. -/
structure Tracks (s : Supervisor) (as : List Attempt) : Prop where
  backoff : s.backoff = .ofWaits s.supervision.retry (as.map Attempt.wait)
  budget : ∀ n, s.supervision.retry.maxAttempts = some n → as.length ≤ n.toNat
  fresh : s.state = .notInitialized ∨ s.state = .connected → as = []

/-- A new supervisor has made no attempt. -/
theorem tracks_make (id : String) (c : Supervision) : Tracks (make id c) [] :=
  ⟨rfl, fun _ _ => Nat.zero_le _, fun _ => rfl⟩

namespace Tracks

variable {s : Supervisor} {as : List Attempt}

/-- Making the latest attempt changes neither their number nor their waits. -/
theorem makeLatest (h : Tracks s as) : Tracks s (Attempt.makeLatest as) := by
  refine ⟨by simpa using h.backoff, by simpa using h.budget, ?_⟩
  intro hf
  rw [h.fresh hf]
  rfl

/-- A call for a connection. -/
theorem asked (h : Tracks s as) (actor : Actor) :
    Tracks s (Attempt.after as [⟨actor, .calls .connect⟩]) := by
  show Tracks s (if actor = .reconnector then Attempt.makeLatest as else as)
  split
  · exact h.makeLatest
  · exact h

/-- The link has moved to a state in which attempts are counted on. -/
theorem moved (h : Tracks s as) {m : Move} (hm : m.action ≠ some .resetBackoff)
    (hto : m.to ≠ .notInitialized ∧ m.to ≠ .connected) : Tracks (s.moved m) as := by
  constructor
  · simpa [moved_eq, hm] using h.backoff
  · simpa using h.budget
  · intro hf
    rcases hf with hf | hf <;> simp_all

/-- The link has come up. -/
theorem established (s : Supervisor) {m : Move} (hm : m.action = some .resetBackoff) :
    Tracks (s.moved m) [] := by
  constructor
  · simp [moved_eq, hm, Backoff.ofWaits_nil]
  · intro n _
    exact Nat.zero_le _
  · intro _
    rfl

/-- While the budget lasts there have been fewer attempts than it allows. -/
theorem length_lt_budget (h : Tracks s as) {n : UInt32}
    (hn : s.supervision.retry.maxAttempts = some n)
    (ha : s.supervision.retry.allows s.backoff.attempt = true) : as.length < n.toNat := by
  have hlt : s.backoff.attempt.toNat < n.toNat := by
    simpa [RetryPolicy.allows, hn, UInt32.lt_iff_toNat_lt] using ha
  rw [h.backoff, Backoff.toNat_attempt_ofWaits, List.length_map] at hlt
  have hsize : UInt32.size = 4294967296 := rfl
  have := n.toNat_lt
  omega

/-- An attempt is charged. -/
theorem charged (h : Tracks s as) (hd : s.IsDue)
    (ha : s.supervision.retry.allows s.backoff.attempt = true) :
    Tracks s.charged (⟨s.supervision.retry.delay s.backoff.attempt, false⟩ :: as) := by
  constructor
  · simp only [Supervisor.charged, List.map_cons, Backoff.ofWaits_cons, ← h.backoff]
  · intro n hn
    exact h.length_lt_budget hn ha
  · intro hf
    rw [show s.charged.state = .disconnected from hd.2.2] at hf
    simp at hf

end Tracks

/-- The deeds of giving up have no bearing on the attempts. -/
theorem after_giveUpDeeds (s : Supervisor) (n : UInt32) (as : List Attempt) :
    Attempt.after as (asActs .reconnector (s.giveUpDeeds n)) = as := by
  unfold giveUpDeeds
  split
  · next e _ => cases h : e.alert <;> simp [Escalation.deeds, h, Attempt.afterAct]
  · simp [note, Attempt.afterAct]

/-- **What a supervisor does keeps its backoff tied to its attempts.** -/
theorem steady_tracks :
    Steady fun s acts t => ∀ as, Tracks s as → Tracks t (Attempt.after as acts) := by
  have hline : ∀ (s : Supervisor) (acts : List Act), (∀ a ∈ acts, a.deed.IsQuiet) →
      ∀ as, Tracks s as → Tracks s (Attempt.after as acts) := by
    intro s acts hacts as h
    rw [Attempt.after_of_quiet as hacts]
    exact h
  have hcomp : Composes fun s acts t => ∀ as, Tracks s as → Tracks t (Attempt.after as acts) := by
    refine ⟨fun s as h => h, ?_⟩
    intro s t u xs ys hst htu as h
    rw [Attempt.after_append]
    exact htu _ (hst as h)
  refine ⟨hcomp, fun actor => ⟨hcomp, ?_, ?_, ?_, ?_⟩, hline, ?_, ?_, ?_⟩
  · -- an event is ignored
    intro s e _
    exact hline s _ (by simp [ignoreDeeds, note, Deed.IsQuiet])
  · -- the link is lost, or comes up
    intro s e m hm hc as h
    obtain rfl := LinkState.eq_move_of_next hm
    cases e with
    | started => exact absurd rfl hc
    | lost reason => exact h.moved (by simp [Event.move]) (by simp [Event.move])
    | established detail => exact Tracks.established s rfl
  · -- the transport has started
    intro s e m hm hc as h
    obtain rfl := LinkState.eq_move_of_next hm
    cases e with
    | started =>
      have hmoved : Tracks (s.moved Event.started.move) as :=
        h.moved (by simp [Event.move]) (by simp [Event.move])
      exact hmoved.asked actor
    | lost reason => simp [Event.move] at hc
    | established detail => simp [Event.move] at hc
  · -- a call for a connection has failed
    exact fun s ending => hline s _ (isQuiet_connectDeeds s actor ending)
  · -- something else changes
    intro s t _ hsup hstate hback as h
    refine ⟨?_, ?_, ?_⟩
    · rw [hback, hsup]
      exact h.backoff
    · rw [hsup]
      exact h.budget
    · rw [hstate]
      exact h.fresh
  · intro s actor as h
    exact h.asked actor
  · -- the reconnector resets a backoff that is fresh already
    intro s hc as h
    obtain rfl := h.fresh (.inr hc)
    exact ⟨rfl, h.budget, h.fresh⟩

/-- A charge is one more attempt; a turn that gives up, or that is not due, is none. -/
theorem tracks_charge {s : Supervisor} {as : List Attempt} (h : Tracks s as) :
    Tracks s.charge.1 (Attempt.after as s.charge.2) := by
  by_cases hd : s.IsDue
  · cases ha : s.supervision.retry.allows s.backoff.attempt with
    | true =>
      rw [charge_of_allows hd ha]
      exact h.charged hd ha
    | false =>
      rw [charge_of_not_allows hd ha]
      dsimp only
      rw [asActs_append, Attempt.after_append, after_giveUpDeeds]
      exact ⟨h.backoff, h.budget, h.fresh⟩
  · rcases charge_of_not_due hd with hc | hc
    · rw [hc]
      exact h
    · rw [hc]
      exact h

/-- **Every step keeps the backoff tied to the attempts.** -/
theorem Tracks.step {s : Supervisor} {as : List Attempt} (h : Tracks s as) (x : Step) :
    Tracks (step x s).1 (Attempt.after as (step x s).2) :=
  steady_tracks.step (fun _ _ _ ht => tracks_charge ht) as h

/-- **After every run the backoff is tied to the attempts since the link was last up.** -/
theorem tracks_run (id : String) (c : Supervision) (xs : List Step) :
    Tracks (run xs (make id c)).1 (Attempt.sinceUp (run xs (make id c)).2) :=
  steady_tracks.toComposes.run (fun x _ _ ht => ht.step x) xs _ [] (tracks_make id c)

/-! ### What leaves the progress alone -/

/-- A step that is no attempt and brings no success: the link is lost, the transport has started and
the call that follows delivers nothing, an event is ignored, a turn is skipped, a wait ends, or the
workers are stopped. -/
def Step.MakesNoProgress (s : Supervisor) : Step → Prop
  | .deliver _ (.lost _) _ => True
  | .deliver _ .started (.returns _) => True
  | .deliver _ e _ => s.state.next e = none
  | .turn _ => ¬ s.IsDue
  | .wake _ => True
  | .requestStop => True
  | .stop _ => True
  | _ => False

/-- Quiet deeds have no bearing on the progress. -/
theorem bearsOnProgress_of_isQuiet {d : Deed} (h : d.IsQuiet) : d.bearsOnProgress = false := by
  cases d <;> simp_all [Deed.IsQuiet, Deed.bearsOnProgress]

/-- An event that is ignored, or that is no success and leads to no other one. -/
theorem bearsOnProgress_of_deliver {s : Supervisor} (actor : Actor) {e : Event} {reply : Reply}
    (h : s.state.next e = none ∨ (∃ reason, e = .lost reason) ∨
      (e = .started ∧ ∃ result, reply = .returns result)) :
    ∀ a ∈ (step (.deliver actor e reply) s).2, a.deed.bearsOnProgress = false := by
  show ∀ a ∈ (play actor (.delivers e reply .done) s).2.1, a.deed.bearsOnProgress = false
  rcases hm : s.state.next e with _ | m
  · rw [play_ignored hm]
    simp [Reply.done, ignoreDeeds, note, Deed.bearsOnProgress]
  · obtain rfl := LinkState.eq_move_of_next hm
    rcases h with h | ⟨reason, rfl⟩ | ⟨rfl, result, rfl⟩
    · rw [hm] at h
      cases h
    · rw [play_moved hm (by simp [Event.move])]
      simp [Reply.done, moveDeeds, note, Deed.bearsOnProgress, Event.move]
    · have hr : (connect actor (.returns result) (s.moved Event.started.move)).2.2 =
          .returned result := rfl
      rw [play_started_of_returned hm rfl hr]
      have hdeeds : ∀ t : Supervisor, ∀ a ∈ asActs actor (t.connectDeeds (.returned result)),
          a.deed.bearsOnProgress = false :=
        fun t a ha => bearsOnProgress_of_isQuiet (isQuiet_connectDeeds t actor _ a ha)
      simp [Reply.done, connect, moveDeeds, note, Deed.bearsOnProgress, Event.move]
      exact hdeeds _

/-- The end of a wait has no bearing on it. -/
theorem bearsOnProgress_of_wake (timeIsOver : Bool) (s : Supervisor) :
    ∀ a ∈ (s.wake timeIsOver).2, a.deed.bearsOnProgress = false := by
  unfold wake
  split
  · split
    · simp [leave, note, Deed.bearsOnProgress]
    split
    · simp [note, Deed.bearsOnProgress]
    split <;> simp [note, Deed.bearsOnProgress]
  · simp

/-- A stop has none, as no attempt is held between steps. -/
theorem bearsOnProgress_of_stop {s : Supervisor} (h : Orderly s) (reply : Reply) :
    ∀ a ∈ (s.stop reply).2, a.deed.bearsOnProgress = false := by
  have hfinish : ∀ a ∈ (s.requestStop.finish reply).2, a.deed.bearsOnProgress = false := by
    unfold finish
    split
    · next n wait hr => exact absurd hr (h.settled n wait)
    · simp [leave, note, Deed.bearsOnProgress]
    · simp [leave, note, Deed.bearsOnProgress]
    · simp
  intro a ha
  rcases List.mem_append.mp ha with ha | ha
  · exact hfinish a ha
  · exact bearsOnProgress_of_isQuiet (isQuiet_join _ a ha)

/-- Nothing in such a step bears on the progress. -/
theorem bearsOnProgress_of_makesNoProgress {s : Supervisor} (h : Orderly s) {x : Step}
    (hx : x.MakesNoProgress s) : ∀ a ∈ (step x s).2, a.deed.bearsOnProgress = false := by
  unfold Step.MakesNoProgress at hx
  split at hx
  · exact bearsOnProgress_of_deliver _ (.inr (.inl ⟨_, rfl⟩))
  · exact bearsOnProgress_of_deliver _ (.inr (.inr ⟨rfl, _, rfl⟩))
  · exact bearsOnProgress_of_deliver _ (.inl hx)
  · intro a ha
    exact bearsOnProgress_of_isQuiet ((turn_of_not_due _ hx h.settled).2 a ha)
  · exact bearsOnProgress_of_wake _ s
  · simp [step]
  · exact bearsOnProgress_of_stop h _
  · cases hx

/-- What bears on the progress is all that changes the backoff. -/
theorem Tracks.backoff_step {s : Supervisor} {as : List Attempt} (h : Tracks s as) {x : Step}
    (hx : ∀ a ∈ (Supervisor.step x s).2, a.deed.bearsOnProgress = false) :
    (Supervisor.step x s).1.backoff = s.backoff := by
  rw [(h.step x).backoff, (step_setup x s).2, Attempt.map_wait_after as hx, h.backoff]

/-! ### The backoff in every reachable state -/

/-- **The backoff counts the attempts since the link was last up.** After every run its count is the
number of the attempts charged since then, as far as 32 bits go; its wait is the one that the latest
of them asked for, or the first wait of the policy if there has been none; the count stays within
the budget; a link that is up, or has not reported yet, has the initial backoff. A step changes it
only by charging an attempt or by the link coming up, so the loss of the link, its start, an ignored
event, a skipped turn and the end of a wait leave it alone. -/
theorem backoff_counts_attempts (id : String) (c : Supervision) (xs : List Step) :
    let s := (run xs (make id c)).1
    let as := Attempt.sinceUp (run xs (make id c)).2
    s.backoff.attempt.toNat = min (UInt32.size - 1) as.length ∧
      (s.backoff.attempt = 0 → s.backoff.currentDelay = c.retry.delay 0) ∧
      (s.backoff.attempt ≠ 0 → as.head?.map Attempt.wait = some s.backoff.currentDelay) ∧
      (∀ n, c.retry.maxAttempts = some n → s.backoff.attempt ≤ n) ∧
      (s.state = .notInitialized ∨ s.state = .connected → s.backoff = .initial c.retry) ∧
      (∀ x, (∀ a ∈ (step x s).2, a.deed.bearsOnProgress = false) →
        (step x s).1.backoff = s.backoff) ∧
      ∀ x : Step, x.MakesNoProgress s → (step x s).1.backoff = s.backoff := by
  intro s as
  have h : Tracks s as := tracks_run id c xs
  have hsup : s.supervision = c := (run_setup xs (make id c)).2
  have hcount : s.backoff.attempt.toNat = min (UInt32.size - 1) as.length := by
    rw [h.backoff, Backoff.toNat_attempt_ofWaits, List.length_map]
  have hzero : s.backoff.attempt = 0 ↔ as = [] := by
    rw [← UInt32.toNat_inj, hcount, ← List.length_eq_zero_iff]
    simp
  refine ⟨hcount, ?_, ?_, ?_, ?_, fun x hx => h.backoff_step hx, ?_⟩
  · intro h0
    rw [h.backoff, hsup, hzero.mp h0]
    rfl
  · intro h0
    cases has : as with
    | nil => exact absurd (hzero.mpr has) h0
    | cons a before =>
      rw [h.backoff, has]
      rfl
  · intro n hn
    have := h.budget n (by rw [hsup]; exact hn)
    rw [UInt32.le_iff_toNat_le, hcount]
    omega
  · intro hs
    rw [h.backoff, hsup, h.fresh hs]
    rfl
  · intro x hx
    exact h.backoff_step (bearsOnProgress_of_makesNoProgress (orderly_run id c xs) hx)

end Supervisor

end LinkWarden

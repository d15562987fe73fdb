import LinkWarden.Proofs.Supervisor.Shutdown

/-!
# No escalation before an attempt

A budget that is not zero leaves room for an attempt. So before a supervisor with such a budget
shows an alert or restarts the device, its reconnector has charged an attempt and asked the
transport for a connection, wherever its workers are interrupted in between.

* `Attempted` says this of what has been done so far.
* `CountsMade` is the invariant: until an attempt has been made, none is counted except one that is
  held. `Upholds` carries it through all that a supervisor does (`upholds_stride`).
* `attempted_before_escalation` is the statement about every run of strides.
-/

namespace LinkWarden

/-- Whether a deed is part of an escalation. -/
def Deed.Escalates : Deed → Prop
  | .alerts _ => True
  | .restarts => True
  | _ => False

/-- The reconnector has charged an attempt and has then asked for a connection. -/
def Attempted (acts : List Act) : Prop :=
  ∃ wait, List.Sublist [⟨.reconnector, .charges wait⟩, ⟨.reconnector, .calls .connect⟩] acts

/-- An attempt that has been made stays made. -/
theorem Attempted.append {past : List Act} (h : Attempted past) (acts : List Act) :
    Attempted (past ++ acts) := by
  obtain ⟨wait, hsub⟩ := h
  exact ⟨wait, hsub.trans (List.sublist_append_left past acts)⟩

/-- An attempt that has been charged before is made now. -/
theorem attempted_of_mem {past acts : List Act} {wait : Duration}
    (hcharge : ⟨.reconnector, .charges wait⟩ ∈ past)
    (hcall : ⟨.reconnector, .calls .connect⟩ ∈ acts) : Attempted (past ++ acts) :=
  ⟨wait, .append (List.singleton_sublist.mpr hcharge) (List.singleton_sublist.mpr hcall)⟩

namespace Supervisor

/-! ### Strides -/

/-- **A steady relation that holds of a charge holds of each stride.** -/
theorem Steady.stride {R : Supervisor → List Act → Supervisor → Prop} (h : Steady R)
    {s : Supervisor} (hcharge : R s s.charge.2 s.charge.1) (x : Stride) :
    R s (stride x s).2 (stride x s).1 := by
  cases x with
  | fine x =>
    cases x with
    | whole x => exact h.step fun _ _ => hcharge
    | charge => exact hcharge
    | attempt reply => exact h.attempt reply s
  | goOn isOver =>
    show R s (s.advance isOver).2 (s.advance isOver).1
    unfold advance
    split
    · split
      · exact h.leave s
      split
      · exact hcharge
      · exact h.nothing s
    · exact h.wake _ s
    · exact h.nothing s

/-- A stride leaves the setup alone. -/
theorem stride_setup (x : Stride) (s : Supervisor) :
    (stride x s).1.supervision = s.supervision := by
  refine (steady_setup.stride ?_ x).2
  by_cases hd : s.IsDue
  · cases ha : s.supervision.retry.allows s.backoff.attempt with
    | true => rw [charge_of_allows hd ha]; exact ⟨rfl, rfl⟩
    | false => rw [charge_of_not_allows hd ha]; exact ⟨rfl, rfl⟩
  · rcases charge_of_not_due hd with hc | hc <;> rw [hc] <;> exact ⟨rfl, rfl⟩

/-- A worker that goes on starts none and stops none. -/
theorem sameStage_advance (isOver : Duration → Bool) (s : Supervisor) :
    SameStage s (s.advance isOver).1 := by
  unfold advance
  split
  · next hr =>
    split
    · exact sameStage_leave (by simp [hr])
    split
    · exact sameStage_charge s
    · exact .refl s
  · exact sameStage_wake _ s
  · exact .refl s

/-- So a stride keeps the reconnector of a supervisor guarded. -/
theorem IsGuarded.stride {s : Supervisor} (h : s.IsGuarded) (x : Stride) :
    (stride x s).1.IsGuarded := by
  cases x with
  | fine x => exact h.fineStep x
  | goOn isOver => exact (sameStage_advance isOver s).isGuarded h

/-! ### The invariant -/

/-- An attempt that is held has been charged, and otherwise none is counted until one has been
made. -/
structure CountsMade (s : Supervisor) (past : List Act) : Prop where
  charged : s.held ≠ 0 → ∃ wait, ⟨.reconnector, .charges wait⟩ ∈ past
  uncounted : s.held = 0 → ¬ Attempted past → s.backoff.attempt = 0

/-- Whatever has been done before, the invariant holds afterwards if it has held before. -/
def Upholds (s : Supervisor) (acts : List Act) (t : Supervisor) : Prop :=
  ∀ past, CountsMade s past → CountsMade t (past ++ acts)

/-- What two runs uphold, they uphold one after the other. -/
theorem composes_upholds : Composes Upholds := by
  refine ⟨fun s past h => by rwa [List.append_nil], ?_⟩
  intro s t u xs ys hst htu past h
  rw [← List.append_assoc]
  exact htu _ (hst past h)

/-- Nothing is charged and no attempt is made. -/
theorem upholds_of_same {s t : Supervisor} (acts : List Act) (hheld : t.held = s.held)
    (hcount : s.backoff.attempt = 0 → t.backoff.attempt = 0) : Upholds s acts t := by
  refine fun past h => ⟨?_, ?_⟩
  · rw [hheld]
    intro hne
    obtain ⟨wait, hmem⟩ := h.charged hne
    exact ⟨wait, List.mem_append_left acts hmem⟩
  · rw [hheld]
    exact fun h0 hnone => hcount (h.uncounted h0 fun ha => hnone (ha.append acts))

/-- Only a charge counts attempts. -/
theorem steady_uncounted :
    Steady fun s _ t => s.backoff.attempt = 0 → t.backoff.attempt = 0 := by
  have hcomp : Composes fun s _ t => s.backoff.attempt = 0 → t.backoff.attempt = 0 :=
    ⟨fun _ h => h, fun hst htu h => htu (hst h)⟩
  have hmoved : ∀ (s : Supervisor) (m : Move), s.backoff.attempt = 0 →
      (s.moved m).backoff.attempt = 0 := by
    intro s m h
    rw [moved_eq]
    dsimp only
    split
    · rfl
    · exact h
  refine ⟨hcomp, fun actor => ⟨hcomp, ?_, ?_, ?_, ?_⟩, ?_, ?_, ?_, ?_⟩
  · exact fun _ _ _ h => h
  · exact fun s _ m _ _ => hmoved s m
  · exact fun s _ m _ _ => hmoved s m
  · exact fun _ _ h => h
  · exact fun _ _ _ h => h
  · exact fun s t _ _ _ hback h => hback ▸ h
  · exact fun _ _ h => h
  · exact fun _ _ _ => rfl

/-- A charge is counted and held at once. A turn that gives up counts nothing. -/
theorem upholds_charge (s : Supervisor) : Upholds s s.charge.2 s.charge.1 := by
  by_cases hd : s.IsDue
  · cases ha : s.supervision.retry.allows s.backoff.attempt with
    | true =>
      rw [charge_of_allows hd ha]
      refine fun past _ => ⟨fun _ => ?_, fun h0 => absurd h0 (by simp [held, charged])⟩
      exact ⟨_, List.mem_append_right past List.mem_cons_self⟩
    | false =>
      rw [charge_of_not_allows hd ha]
      exact upholds_of_same _ (by simp [held, hd.1]) fun h => h
  · rcases charge_of_not_due hd with hc | hc <;> rw [hc] <;> exact upholds_of_same _ rfl fun h => h

/-- **An attempt that is held is made.** -/
theorem upholds_attempt (reply : Reply) (s : Supervisor) :
    Upholds s (s.attempt reply).2 (s.attempt reply).1 := by
  by_cases h : ∃ n wait, s.reconnector = .attempting n wait
  · obtain ⟨n, wait, hr⟩ := h
    have hafter : (s.attempt reply).1.held = 0 := by
      apply held_of_settled
      rw [attempt_of_attempting reply hr]
      dsimp only
      intro n wait
      split <;> simp
    have hcall : ⟨.reconnector, .calls .connect⟩ ∈ (s.attempt reply).2 := by
      rw [attempt_of_attempting reply hr]
      simp [connect]
    refine fun past hpast => ⟨fun hne => absurd hafter hne, fun _ hnone => ?_⟩
    obtain ⟨wait, hcharge⟩ := hpast.charged (by simp [held, hr])
    exact absurd (attempted_of_mem hcharge hcall) hnone
  · rw [attempt_of_settled reply fun n wait hr => h ⟨n, wait, hr⟩]
    exact composes_upholds.nothing s

/-- A reconnector that holds no attempt may leave. -/
theorem upholds_leave {s : Supervisor} (h : s.held = 0) : Upholds s s.leave.2 s.leave.1 :=
  upholds_of_same _ (h ▸ rfl) fun h => h

/-- So may one wake from its wait. -/
theorem upholds_wake (timeIsOver : Bool) (s : Supervisor) :
    Upholds s (s.wake timeIsOver).2 (s.wake timeIsOver).1 := by
  have hheld : (s.wake timeIsOver).1.held = s.held := by
    have hbalance := balanced_wake timeIsOver s
    obtain ⟨hr, hs, hc⟩ := counts_of_quiet (isQuiet_wake timeIsOver s)
    rw [Balanced, hr, hs, hc] at hbalance
    omega
  exact upholds_of_same _ hheld (steady_uncounted.wake timeIsOver s)

/-- An initialisation starts the workers, and no attempt is held before or after it. -/
theorem upholds_init {s : Supervisor} (h : s.IsGuarded) (reply : Reply) :
    Upholds s (s.init reply).2.1 (s.init reply).1 := by
  refine upholds_of_same _ ?_ (steady_uncounted.init reply s)
  by_cases hf : s.IsFresh
  · have hplay := play_reconnector .caller reply { s with initialized := true }
    rcases hend : (s.startCall reply).2.2 with (e | _) | _
    · rw [init_of_failed reply hf hend]
      exact held_congr hplay
    · rw [init_of_started reply hf hend]
      simp [held, startWorkers, h.unstarted hf]
    · rw [init_of_died reply hf hend]
      exact held_congr hplay
  · rw [init_of_refused reply hf]
    rfl

/-- A stop makes the attempt that is held before it waits for the workers. -/
theorem upholds_stop (reply : Reply) (s : Supervisor) :
    Upholds s (s.stop reply).2 (s.stop reply).1 := by
  have hasked : Upholds s [] s.requestStop := upholds_of_same [] rfl fun h => h
  have hfinish : ∀ t : Supervisor, Upholds t (t.finish reply).2 (t.finish reply).1 := by
    intro t
    unfold finish
    split
    · exact composes_upholds.andThen (upholds_attempt reply t) (upholds_wake false _)
    · next hr => exact upholds_leave (by simp [held, hr])
    · next hr => exact upholds_leave (by simp [held, hr])
    · exact composes_upholds.nothing t
  have hjoin : ∀ t : Supervisor, Upholds t t.join.2 t.join.1 := by
    intro t
    apply upholds_of_same _ (held_congr (by rw [join_frame]))
    rw [join_frame]
    exact fun h => h
  have hstop := composes_upholds.andThen hasked
    (composes_upholds.andThen (hfinish s.requestStop) (hjoin (s.requestStop.finish reply).1))
  rwa [List.nil_append] at hstop

/-- **Every stride upholds the invariant.** -/
theorem upholds_stride {s : Supervisor} (h : s.IsGuarded) (x : Stride) :
    Upholds s (stride x s).2 (stride x s).1 := by
  have hcount : ∀ {x : Step}, (∀ reply, x ≠ .turn reply) → s.backoff.attempt = 0 →
      (step x s).1.backoff.attempt = 0 :=
    fun hx => steady_uncounted.step fun reply hturn => absurd hturn (hx reply)
  cases x with
  | fine x =>
    cases x with
    | charge => exact upholds_charge s
    | attempt reply => exact upholds_attempt reply s
    | whole x =>
      cases x with
      | deliver actor e reply =>
        exact upholds_of_same _ (held_congr (play_reconnector _ _ s)) (hcount (by simp))
      | turn reply =>
        exact composes_upholds.andThen (upholds_charge s) (upholds_attempt reply _)
      | wake timeIsOver => exact upholds_wake timeIsOver s
      | check found reply =>
        exact upholds_of_same _ (held_congr (check_frame found reply s).1) (hcount (by simp))
      | init reply => exact upholds_init h reply
      | requestStop => exact upholds_of_same _ rfl fun h => h
      | stop reply => exact upholds_stop reply s
  | goOn isOver =>
    show Upholds s (s.advance isOver).2 (s.advance isOver).1
    unfold advance
    split
    · next hr =>
      split
      · exact upholds_leave (by simp [held, hr])
      split
      · exact upholds_charge s
      · exact composes_upholds.nothing s
    · exact upholds_wake _ s
    · exact composes_upholds.nothing s

/-! ### Escalations -/

/-- Nothing but giving up escalates. -/
theorem steady_noEscalation : Steady fun _ acts _ => ∀ a ∈ acts, ¬ a.deed.Escalates := by
  refine steady_deeds (P := fun d => ¬ d.Escalates) ?_ (fun _ _ h => h) fun h => h
  intro d hd
  cases d <;> simp_all [Deed.IsQuiet, Deed.Escalates]

/-- Until an attempt has been made, a budget that is not zero is not used up. -/
theorem noEscalation_stride {s : Supervisor} {past : List Act} (h : CountsMade s past)
    (hnone : ¬ Attempted past) (hbudget : s.supervision.retry.maxAttempts ≠ some 0) (x : Stride) :
    ∀ a ∈ (stride x s).2, ¬ a.deed.Escalates := by
  refine steady_noEscalation.stride ?_ x
  by_cases hd : s.IsDue
  · have ha : s.supervision.retry.allows s.backoff.attempt = true := by
      rw [h.uncounted (by simp [held, hd.1]) hnone]
      unfold RetryPolicy.allows
      split
      · rfl
      · next n hn =>
        have hne : n ≠ 0 := fun h0 => hbudget (h0 ▸ hn)
        simpa [UInt32.pos_iff_ne_zero] using hne
    rw [charge_of_allows hd ha]
    simp [chargeDeeds, note, Deed.Escalates]
  · rcases charge_of_not_due hd with hc | hc <;> rw [hc] <;> simp [note, Deed.Escalates]

/-- The statement from any moment on: `past` is what has been done before. -/
theorem attempted_of_strides {xs : List Stride} {s : Supervisor} (past : List Act)
    (hguard : s.IsGuarded) (h : CountsMade s past)
    (hbudget : s.supervision.retry.maxAttempts ≠ some 0) {before rest : List Act} {a : Act}
    (hacts : (strides xs s).2 = before ++ a :: rest) (ha : a.deed.Escalates) :
    Attempted (past ++ before) := by
  induction xs generalizing s past before with
  | nil => simp [strides] at hacts
  | cons x xs ih =>
    by_cases hdone : Attempted past
    · exact hdone.append before
    · have hnone := noEscalation_stride h hdone hbudget x
      have hlater : ∀ before, (strides xs (stride x s).1).2 = before ++ a :: rest →
          Attempted (past ++ (stride x s).2 ++ before) := fun before hacts =>
        ih (past ++ (stride x s).2) (hguard.stride x) (upholds_stride hguard x past h)
          (by rw [stride_setup]; exact hbudget) hacts
      rw [strides, List.append_eq_append_iff] at hacts
      rcases hacts with ⟨mid, rfl, hrest⟩ | ⟨mid, hnow, hrest⟩
      · rw [← List.append_assoc]
        exact hlater mid hrest
      · -- the escalation is none of the first stride's own acts, so the later ones begin with it
        cases mid with
        | nil =>
          have hfirst := hlater [] hrest.symm
          rwa [hnow, List.append_nil, List.append_nil] at hfirst
        | cons b mid =>
          obtain ⟨rfl, -⟩ := List.cons.inj hrest
          exact absurd ha (hnone _ (by rw [hnow]; simp))

/-- **Before a supervisor with a budget that is not zero, or with none, escalates, its reconnector
has charged an attempt and asked the transport for a connection.** -/
theorem attempted_before_escalation (id : String) {c : Supervision}
    (hbudget : c.retry.maxAttempts ≠ some 0) (xs : List Stride) {before rest : List Act} {a : Act}
    (hacts : (strides xs (make id c)).2 = before ++ a :: rest) (ha : a.deed.Escalates) :
    Attempted before := by
  have hmake : CountsMade (make id c) [] := ⟨fun h => absurd rfl h, fun _ _ => rfl⟩
  exact attempted_of_strides [] (fun h => absurd rfl h) hmake hbudget hacts ha

end Supervisor

end LinkWarden

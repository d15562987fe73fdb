import LinkWarden.Proofs.Supervisor.Run

/-!
# Rounds of the prober

A round comes to one of six things, and there is an equation for each: the prober is at rest
(`check_of_resting`); the link is not up (`check_of_down`); the probe finds out nothing
(`check_of_none`), or that the peer answers (`check_of_reachable`), or that it does not, and then
either a miss is counted (`check_of_counted`) or there are enough of them and the session is ended
(`check_of_enough`). `check_cases` collects them.

Nothing else probes, ends sessions or counts: `step_of_no_round` says so of all other steps.
-/

namespace LinkWarden

namespace Supervisor

/-! ### What comes of a round -/

/-- In a round the prober asks the transport. -/
def IsProbing (s : Supervisor) : Prop :=
  s.probing = true ∧ s.stopping = false ∧ s.state = .connected

instance (s : Supervisor) : Decidable s.IsProbing :=
  inferInstanceAs (Decidable (_ ∧ _ ∧ _))

/-- The line about one more miss. -/
def missLine (s : Supervisor) : Deed :=
  s.note .warn ("unreachable (" ++ toString (s.misses + 1).toNat ++ "/" ++
    toString s.supervision.health.threshold.toNat ++ ")")

/-- The call by which the prober ends a session. -/
def endCall (reply : Reply) (s : Supervisor) : Supervisor × List Act × Ending :=
  play .prober reply { s with misses := 0 }

/-- The supervisor after a round in which the prober has ended a session. The prober may have died
in the call. -/
def ended (reply : Reply) (s : Supervisor) : Supervisor :=
  { (s.endCall reply).1 with
    prober := (s.endCall reply).1.prober.after (s.endCall reply).2.2 }

/-- What is done in a round once the transport has been told to disconnect. -/
def endActs (reply : Reply) (s : Supervisor) : List Act :=
  (s.endCall reply).2.1 ++
    asActs .prober ((s.endCall reply).1.disconnectDeeds (s.endCall reply).2.2)

section Rounds

variable {s : Supervisor} {p : Probe} (found : Option Probe) (reply : Reply)

/-- A prober that does not run, or is told to exit, does nothing. -/
theorem check_of_resting (h : ¬ (s.probing = true ∧ s.stopping = false)) :
    s.check found reply = (s, []) := by
  unfold check
  rw [if_pos]
  cases hp : s.probing <;> cases hs : s.stopping <;> simp_all

/-- A link that is not up has its misses forgotten. -/
theorem check_of_down (hp : s.probing = true) (hs : s.stopping = false)
    (hd : s.state ≠ .connected) : s.check found reply = ({ s with misses := 0 }, []) := by
  unfold check
  rw [if_neg (by simp [hp, hs]), if_pos (by simp [isConnected, hd])]

/-- A round of a link that is up depends on what its probe finds out. -/
theorem check_of_probing (h : s.IsProbing) :
    s.check found reply = match found with
      | none => (s, asActs .prober [.calls .probe])
      | some p => ((s.judge p reply).1, asActs .prober [.calls .probe] ++ (s.judge p reply).2) := by
  obtain ⟨hp, hs, hc⟩ := h
  have hrest : ¬ (!s.probing || s.stopping) = true := by simp [hp, hs]
  have hdown : ¬ (!s.isConnected) = true := by simp [isConnected, hc]
  cases found with
  | none => simp only [check, if_neg hrest, if_neg hdown]
  | some p => simp only [check, if_neg hrest, if_neg hdown]

/-- A probe that finds out nothing leaves the misses as they are. -/
theorem check_of_none (h : s.IsProbing) :
    s.check none reply = (s, asActs .prober [.calls .probe]) :=
  check_of_probing none reply h

/-- An answer has the misses forgotten. -/
theorem check_of_reachable (h : s.IsProbing) (hr : p.reachable = true) :
    s.check (some p) reply =
      ({ s with misses := 0 }, asActs .prober (.calls .probe :: s.probeDeeds p)) := by
  rw [check_of_probing _ reply h]
  simp [judge, hr]

/-- A miss that is not one too many is counted. -/
theorem check_of_counted (h : s.IsProbing) (hr : p.reachable = false)
    (ht : ¬ s.supervision.health.threshold ≤ s.misses + 1) :
    s.check (some p) reply =
      ({ s with misses := s.misses + 1 },
        asActs .prober (.calls .probe :: (s.probeDeeds p ++ [s.missLine]))) := by
  rw [check_of_probing _ reply h]
  simp [judge, hr, miss, ht, missLine]

/-- At the threshold the count begins anew, and the session is ended. -/
theorem check_of_enough (h : s.IsProbing) (hr : p.reachable = false)
    (ht : s.supervision.health.threshold ≤ s.misses + 1) :
    s.check (some p) reply =
      (s.ended reply,
        asActs .prober (.calls .probe :: (s.probeDeeds p ++ [s.missLine])) ++
          ⟨.prober, .calls .disconnect⟩ :: s.endActs reply) := by
  rw [check_of_probing _ reply h]
  simp [judge, hr, miss, ht, missLine, ended, endActs, endCall]

/-- A prober that dies while it ends a session makes no more rounds, and the stop warns of it. -/
example :
    let up := Reply.delivers .started (.delivers (.established none) .done .done) .done
    let silent := some { rssiDbm := none, reachable := false }
    let s := (make "wifi" { Supervision.persistent with health := .every (.ofSeconds 1) 1 }).init up
    let t := (s.1.check silent .dies).1
    (t.check silent .done).2 = [] ∧
      ⟨.caller, t.note .warn "worker thread panicked"⟩ ∈ (t.stop .done).2 := by
  decide +kernel

/-- **What a round comes to.** Where there is nothing to be done, or nothing is found out, the
misses stay as they are or are forgotten. -/
theorem check_cases :
    s.check found reply = (s, []) ∨
    s.check found reply = ({ s with misses := 0 }, []) ∨
    (found = none ∧ s.check found reply = (s, asActs .prober [.calls .probe])) ∨
    (∃ p, found = some p ∧ p.reachable = true ∧ s.check found reply =
      ({ s with misses := 0 }, asActs .prober (.calls .probe :: s.probeDeeds p))) ∨
    ∃ p, found = some p ∧ p.reachable = false ∧
      (¬ s.supervision.health.threshold ≤ s.misses + 1 ∧ s.check found reply =
          ({ s with misses := s.misses + 1 },
            asActs .prober (.calls .probe :: (s.probeDeeds p ++ [s.missLine]))) ∨
        s.supervision.health.threshold ≤ s.misses + 1 ∧ s.check found reply =
          (s.ended reply,
            asActs .prober (.calls .probe :: (s.probeDeeds p ++ [s.missLine])) ++
              ⟨.prober, .calls .disconnect⟩ :: s.endActs reply)) := by
  by_cases hrest : s.probing = true ∧ s.stopping = false
  · by_cases hup : s.state = .connected
    · have h : s.IsProbing := ⟨hrest.1, hrest.2, hup⟩
      cases found with
      | none => exact .inr (.inr (.inl ⟨rfl, check_of_none reply h⟩))
      | some p =>
        cases hr : p.reachable with
        | true => exact .inr (.inr (.inr (.inl ⟨p, rfl, hr, check_of_reachable reply h hr⟩)))
        | false =>
          refine .inr (.inr (.inr (.inr ⟨p, rfl, hr, ?_⟩)))
          by_cases ht : s.supervision.health.threshold ≤ s.misses + 1
          · exact .inr ⟨ht, check_of_enough reply h hr ht⟩
          · exact .inl ⟨ht, check_of_counted reply h hr ht⟩
    · exact .inr (.inl (check_of_down found reply hrest.1 hrest.2 hup))
  · exact .inl (check_of_resting found reply hrest)

end Rounds

/-! ### All other steps -/

/-- What the transport delivers is counted by nobody as a miss. -/
@[simp] theorem play_misses (actor : Actor) (r : Reply) (s : Supervisor) :
    (play actor r s).1.misses = s.misses := by
  rw [play_frame]

/-- The count begins anew when a session has been ended. -/
@[simp] theorem ended_misses (reply : Reply) (s : Supervisor) : (s.ended reply).misses = 0 :=
  play_misses .prober reply { s with misses := 0 }

end Supervisor

/-- A deed of the prober: it asks the transport for a sign of life, or ends a session. -/
def Deed.isProbers : Deed → Bool
  | .calls .probe => true
  | .calls .disconnect => true
  | _ => false

namespace Supervisor

/-- The misses stay as they are, and the prober does nothing. -/
def LeavesMisses (s : Supervisor) (x : Supervisor × List Act) : Prop :=
  x.1.misses = s.misses ∧ ∀ a ∈ x.2, a.deed.isProbers = false

/-- Where nothing is done the misses stay as they are. -/
theorem leavesMisses_nil (s : Supervisor) : LeavesMisses s (s, []) :=
  ⟨rfl, fun _ ha => absurd ha List.not_mem_nil⟩

/-- The misses stay as they are in two steps if they do so in each. -/
theorem LeavesMisses.andThen {s t : Supervisor} {xs : List Act} {y : Supervisor × List Act}
    (hx : LeavesMisses s (t, xs)) (hy : LeavesMisses t y) : LeavesMisses s (y.1, xs ++ y.2) := by
  refine ⟨hy.1.trans hx.1, ?_⟩
  intro a ha
  rcases List.mem_append.mp ha with ha | ha
  · exact hx.2 a ha
  · exact hy.2 a ha

/-- Whatever a call on the transport delivers, the prober has no part in it. -/
theorem isProbers_of_mem_play {actor : Actor} {r : Reply} {s : Supervisor} {a : Act}
    (ha : a ∈ (play actor r s).2.1) : a.deed.isProbers = false := by
  have hR : Handles actor fun _ acts _ => ∀ a ∈ acts, a.deed.isProbers = false := by
    refine ⟨⟨fun _ a ha => absurd ha List.not_mem_nil, ?_⟩, ?_, ?_, ?_, ?_⟩
    · intro s t u xs ys hxs hys a ha
      rcases List.mem_append.mp ha with ha | ha
      · exact hxs a ha
      · exact hys a ha
    · simp [ignoreDeeds, note, Deed.isProbers]
    · simp [moveDeeds, note, Deed.isProbers]
    · simp [moveDeeds, note, Deed.isProbers]
    · intro s ending
      show ∀ a ∈ asActs actor (s.connectDeeds ending), a.deed.isProbers = false
      exact forall_asActs_of_logs (fun _ _ => rfl) fun _ => logs_of_mem_connectDeeds
  exact hR.play r s a ha

/-- The prober probes no more in the round, and tells the transport nothing else. -/
theorem isProbers_of_mem_endActs {reply : Reply} {s : Supervisor} {a : Act}
    (ha : a ∈ s.endActs reply) : a.deed.isProbers = false := by
  rcases List.mem_append.mp ha with ha | ha
  · exact isProbers_of_mem_play ha
  · have hlines : ∀ a ∈ asActs .prober
        ((s.endCall reply).1.disconnectDeeds (s.endCall reply).2.2), a.deed.isProbers = false :=
      forall_asActs_of_logs (fun _ _ => rfl) fun _ => logs_of_mem_disconnectDeeds
    exact hlines a ha

/-- What the transport delivers leaves the misses alone. -/
theorem leavesMisses_play (actor : Actor) (r : Reply) (s : Supervisor) :
    LeavesMisses s ((play actor r s).1, (play actor r s).2.1) :=
  ⟨play_misses actor r s, fun _ ha => isProbers_of_mem_play ha⟩

/-- A reconnector that leaves does so. -/
theorem leavesMisses_leave (s : Supervisor) : LeavesMisses s s.leave :=
  ⟨rfl, by simp [leave, note, Deed.isProbers]⟩

/-- A turn of the reconnector charges an attempt or gives up, and leaves the misses alone. -/
theorem leavesMisses_charge (s : Supervisor) : LeavesMisses s s.charge := by
  by_cases hd : s.IsDue
  · cases ha : s.supervision.retry.allows s.backoff.attempt with
    | true =>
      rw [charge_of_allows hd ha]
      exact ⟨rfl, by simp [chargeDeeds, note, Deed.isProbers]⟩
    | false =>
      rw [charge_of_not_allows hd ha]
      refine ⟨rfl, ?_⟩
      cases he : s.supervision.escalation with
      | none => simp [giveUpDeeds, he, note, Deed.isProbers]
      | some e => cases hal : e.alert <;> simp [giveUpDeeds, he, Escalation.deeds, hal, note,
          Deed.isProbers]
  · rcases charge_of_not_due hd with hc | hc <;> rw [hc]
    · exact leavesMisses_nil s
    · exact ⟨rfl, by simp [note, Deed.isProbers]⟩

/-- An attempt leaves them alone, whatever its call delivers. -/
theorem leavesMisses_attempt (reply : Reply) (s : Supervisor) :
    LeavesMisses s (s.attempt reply) := by
  unfold attempt
  split
  · have hplay := leavesMisses_play .reconnector reply s
    have hline : ∀ (t : Supervisor) ending,
        ∀ a ∈ asActs .reconnector (t.connectDeeds ending), a.deed.isProbers = false :=
      fun t ending => forall_asActs_of_logs (fun _ _ => rfl) fun _ => logs_of_mem_connectDeeds
    have hcall : LeavesMisses s
        ((connect .reconnector reply s).1, (connect .reconnector reply s).2.1) := by
      refine ⟨hplay.1, ?_⟩
      intro a ha
      rcases List.mem_append.mp ha with ha | ha
      · rcases List.mem_cons.mp ha with rfl | ha
        · rfl
        · exact hplay.2 a ha
      · exact hline _ _ a ha
    dsimp only
    split <;> exact hcall
  · exact leavesMisses_nil s

/-- The end of a wait leaves them alone. -/
theorem leavesMisses_wake (timeIsOver : Bool) (s : Supervisor) :
    LeavesMisses s (s.wake timeIsOver) := by
  unfold wake
  split
  · split
    · exact leavesMisses_leave s
    split
    · exact ⟨rfl, by simp [note, Deed.isProbers]⟩
    split
    · exact ⟨rfl, by simp [note, Deed.isProbers]⟩
    · exact leavesMisses_nil s
  · exact leavesMisses_nil s

/-- An initialisation starts the prober, but makes no round. -/
theorem leavesMisses_init (reply : Reply) (s : Supervisor) :
    LeavesMisses s ((s.init reply).1, (s.init reply).2.1) := by
  unfold init
  split
  · exact leavesMisses_nil s
  have hcalls : LeavesMisses s
      ({ s with initialized := true }, asActs .caller [.calls .bind, .calls .start]) :=
    ⟨rfl, by simp [Deed.isProbers]⟩
  have hplay := hcalls.andThen (leavesMisses_play .caller reply { s with initialized := true })
  rcases hx : play .caller reply { s with initialized := true } with ⟨t, acts, ending⟩
  rw [hx] at hplay
  have hworkers : LeavesMisses t t.startWorkers := by
    refine ⟨rfl, ?_⟩
    simp [startWorkers, note, Deed.isProbers]
  rcases ending with (e | u) | _
  · exact hplay.andThen (y := ({ t with initialized := false }, _))
      ⟨rfl, by simp [note, Deed.isProbers]⟩
  · exact hplay.andThen hworkers
  · exact hplay

/-- A stop makes no round. -/
theorem leavesMisses_stop (reply : Reply) (s : Supervisor) :
    LeavesMisses s (s.stop reply) := by
  have hfinish : LeavesMisses s (s.requestStop.finish reply) := by
    unfold finish
    split
    · exact (leavesMisses_attempt reply s.requestStop).andThen (leavesMisses_wake false _)
    · exact leavesMisses_leave s.requestStop
    · exact leavesMisses_leave s.requestStop
    · exact leavesMisses_nil s
  have hjoin : ∀ t : Supervisor, LeavesMisses t t.join := fun t =>
    ⟨by rw [join_frame], forall_of_logs (fun _ _ => rfl) fun _ => logs_of_mem_join⟩
  exact hfinish.andThen (hjoin _)

/-- **Only a round of the prober probes, ends a session or changes the count of misses.** -/
theorem step_of_no_round {x : Step} (hx : ∀ found reply, x ≠ .check found reply) (s : Supervisor) :
    LeavesMisses s (step x s) := by
  cases x with
  | deliver actor e reply => exact leavesMisses_play actor (.delivers e reply .done) s
  | turn reply => exact (leavesMisses_charge s).andThen (leavesMisses_attempt reply _)
  | wake timeIsOver => exact leavesMisses_wake timeIsOver s
  | check found reply => exact absurd rfl (hx found reply)
  | init reply => exact leavesMisses_init reply s
  | requestStop => exact leavesMisses_nil s
  | stop reply => exact leavesMisses_stop reply s

end Supervisor

end LinkWarden

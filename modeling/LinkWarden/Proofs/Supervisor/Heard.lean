import LinkWarden.Proofs.Supervisor.EventRuns

/-!
# The events of a call

A call on the transport may deliver events before it returns, and an event that makes the supervisor
ask for a connection leads to a call inside the call. `Reply.heard` lists the events of a call in
the order in which they are handled.

* `Answers` says that a supervisor has done what the table of transitions says about a sequence of
  events, and has asked for so many connections besides.
* `answers_play` holds of every call, whatever it delivers and however the calls inside it go.
-/

namespace LinkWarden

open LinkState

/-! ### Which events are heard -/

/-- Whether an event makes the supervisor of a link in this state ask for a connection. -/
def LinkState.leadsToCall (l : LinkState) (e : Event) : Bool :=
  (l.next e).any fun m => m.action = some .connect

/-- The events that a call delivers to a link in this state, those of calls inside it in their
places, and whether the call returns. Nothing more is heard of a call in which the caller dies. -/
def Reply.heard : Reply → LinkState → List Event × Bool
  | .returns _, _ => ([], true)
  | .dies, _ => ([], false)
  | .delivers e nested rest, l =>
    let inner := if l.leadsToCall e then nested.heard (l.after e) else ([], true)
    let later :=
      if inner.2 then rest.heard (inner.1.foldl after (l.after e)) else ([], false)
    (e :: (inner.1 ++ later.1), later.2)

namespace Reply

variable {l : LinkState} {e : Event} {nested rest : Reply}

/-- Nothing is called inside the call where the event asks for nothing. -/
theorem heard_of_not_leadsToCall (h : l.leadsToCall e = false) :
    (delivers e nested rest).heard l =
      (e :: (rest.heard (l.after e)).1, (rest.heard (l.after e)).2) := by
  simp [heard, h]

/-- The call inside the call returns, and the call goes on. -/
theorem heard_of_returned (h : l.leadsToCall e = true) (hr : (nested.heard (l.after e)).2 = true) :
    (delivers e nested rest).heard l =
      let inner := (nested.heard (l.after e)).1
      (e :: (inner ++ (rest.heard (inner.foldl after (l.after e))).1),
        (rest.heard (inner.foldl after (l.after e))).2) := by
  simp [heard, h, hr]

/-- The caller dies in the call inside the call. -/
theorem heard_of_died (h : l.leadsToCall e = true) (hr : (nested.heard (l.after e)).2 = false) :
    (delivers e nested rest).heard l = (e :: (nested.heard (l.after e)).1, false) := by
  simp [heard, h, hr]

end Reply

/-- A deed that is no one's answer to an event: a worker probes or ends a session, charges an
attempt, or gives up. -/
def Deed.IsWork : Deed → Prop
  | .calls .probe => True
  | .calls .disconnect => True
  | .charges _ => True
  | .alerts _ => True
  | .restarts => True
  | _ => False

namespace Supervisor

/-! ### Doing what the table says -/

/-- Neither the link and its backoff nor the id and the setup of the supervisor have changed. -/
structure SameLink (s t : Supervisor) : Prop where
  state : t.state = s.state
  backoff : t.backoff = s.backoff
  id : t.id = s.id
  supervision : t.supervision = s.supervision

/-- The link of a supervisor has been moved by events as the table says, each transition has been
made known, and nothing else has been done. Besides the connections that the events ask for, so many
have been asked for. -/
structure Answers (own : Nat) (s : Supervisor) (es : List Event) (acts : List Act)
    (t : Supervisor) : Prop where
  state : t.state = es.foldl after s.state
  /-- The backoff is reset if the link has come up, and left alone otherwise. -/
  backoff : t.backoff =
    if (moves s.state es).any fun m => m.2 = .connected then .initial s.supervision.retry
    else s.backoff
  id : t.id = s.id
  supervision : t.supervision = s.supervision
  transitions : transitions acts = moves s.state es
  /-- A connection is asked for whenever the transport has started. -/
  requests : requests acts = own + (accepted s.state es).countP fun e => e = .started
  noWork : ∀ a ∈ acts, ¬ a.deed.IsWork

namespace Answers

variable {m n : Nat} {s t u : Supervisor} {es fs : List Event} {xs ys : List Act}

/-- Nothing has happened to the link, and nothing but lines and quiet calls has been made. -/
theorem of_quiet (h : SameLink s t) (hquiet : ∀ a ∈ xs, a.deed.IsQuiet)
    (hwork : ∀ a ∈ xs, ¬ a.deed.IsWork) : Answers 0 s [] xs t where
  state := h.state
  backoff := by simpa [moves] using h.backoff
  id := h.id
  supervision := h.supervision
  transitions := transitions_of_quiet hquiet
  requests := (counts_of_quiet hquiet).1
  noWork := hwork

/-- Lines alone answer no event. -/
theorem of_lines (h : SameLink s t) (hxs : ∀ a ∈ xs, ∃ line, a.deed = .logs line) :
    Answers 0 s [] xs t := by
  refine of_quiet h ?_ ?_ <;> intro a ha <;> obtain ⟨line, hline⟩ := hxs a ha <;>
    simp [hline, Deed.IsQuiet, Deed.IsWork]

/-- Where nothing has happened there is nothing to answer. -/
theorem refl (s : Supervisor) : Answers 0 s [] [] s := of_lines ⟨rfl, rfl, rfl, rfl⟩ (by simp)

/-- Events after events are answered one after another. -/
theorem append (h : Answers m s es xs t) (h' : Answers n t fs ys u) :
    Answers (m + n) s (es ++ fs) (xs ++ ys) u := by
  have hstate : u.state = (es ++ fs).foldl after s.state := by
    rw [h'.state, h.state, List.foldl_append]
  refine ⟨hstate, ?_, h'.id.trans h.id, h'.supervision.trans h.supervision, ?_, ?_, ?_⟩
  · rw [h'.backoff, h.backoff, h.supervision, h.state, moves_append, List.any_append]
    cases (moves s.state es).any fun m => m.2 = .connected <;>
      cases (moves (es.foldl after s.state) fs).any fun m => m.2 = .connected <;> rfl
  · rw [transitions_append, h.transitions, h'.transitions, h.state, moves_append]
  · rw [requests_append, h.requests, h'.requests, h.state, accepted_append, List.countP_append]
    omega
  · intro a ha
    rcases List.mem_append.mp ha with ha | ha
    · exact h.noWork a ha
    · exact h'.noWork a ha

/-- What a supervisor does before it answers events, without touching its link. -/
theorem after_quiet (hs : Answers 0 s [] xs t) (h : Answers n t es ys u) :
    Answers n s es (xs ++ ys) u := by
  simpa using hs.append h

/-- What it does afterwards. -/
theorem then_quiet (h : Answers n s es xs t) (ht : Answers 0 t [] ys u) :
    Answers n s es (xs ++ ys) u := by
  simpa using h.append ht

/-- Only the link and its backoff count afterwards. -/
theorem congr (h : Answers n s es xs t) (ht : SameLink t u) : Answers n s es xs u := by
  have hnothing : Answers 0 t [] [] u := .of_lines ht (by simp)
  simpa using h.then_quiet hnothing

end Answers

/-! ### Calls on the transport -/

section Event

variable {s : Supervisor} {e : Event} {m : Move} (actor : Actor)

/-- An event that the table has no entry for is answered by a line. -/
theorem answers_ignored (h : s.state.next e = none) :
    Answers 0 s [e] (asActs actor (s.ignoreDeeds e)) s where
  state := (after_of_none h).symm
  backoff := by rw [moves_of_none h]; rfl
  id := rfl
  supervision := rfl
  transitions := by rw [moves_of_none h]; rfl
  requests := by rw [accepted_of_none h]; rfl
  noWork := by simp [ignoreDeeds, note, Deed.IsWork]

/-- An event that is accepted, and the call for a connection if it asks for one. -/
theorem answers_accepted (h : s.state.next e = some m) :
    Answers 0 s [e] (asActs actor (s.moveDeeds e m) ++
      if m.action = some .connect then [⟨actor, .calls .connect⟩] else []) (s.moved m) := by
  have hmoved := afterEvents_of_some h
  obtain rfl := eq_move_of_next h
  refine ⟨?_, ?_, ?_, ?_, ?_, ?_, ?_⟩
  · rw [← hmoved]
    rfl
  · rw [← hmoved]
    rfl
  · simp [moved_eq]
  · simp
  · rw [moves_of_some h]
    cases e <;> rfl
  · rw [accepted_of_some h]
    cases e <;> simp [moveDeeds, note, Event.move, accepted]
  · cases e <;> simp [moveDeeds, note, Event.move, Deed.IsWork]

/-- That a call has failed is no event. -/
theorem answers_connectDeeds (s : Supervisor) (ending : Ending) :
    Answers 0 s [] (asActs actor (s.connectDeeds ending)) s := by
  refine .of_lines ⟨rfl, rfl, rfl, rfl⟩ ?_
  exact forall_asActs_of_logs (fun _ line => ⟨line, rfl⟩) fun _ => logs_of_mem_connectDeeds

end Event

/-- **A call on the transport does what the table says about the events that it delivers**, whatever
they are and however the calls inside it go. -/
theorem answers_play (actor : Actor) (r : Reply) (s : Supervisor) :
    Answers 0 s (r.heard s.state).1 (play actor r s).2.1 (play actor r s).1 ∧
      ((play actor r s).2.2 = .died ↔ (r.heard s.state).2 = false) := by
  induction r generalizing s with
  | returns result => exact ⟨.refl s, by simp [Reply.heard]⟩
  | dies => exact ⟨.refl s, by simp [Reply.heard]⟩
  | delivers e nested rest ihNested ihRest =>
    rcases h : s.state.next e with _ | m
    · -- the event is ignored
      have hleads : s.state.leadsToCall e = false := by simp [leadsToCall, h]
      obtain ⟨hrest, hend⟩ := ihRest s
      rw [play_ignored h, Reply.heard_of_not_leadsToCall hleads, after_of_none h]
      exact ⟨(answers_ignored actor h).append hrest, hend⟩
    · have hstate : (s.moved m).state = s.state.after e := by
        rw [moved_state, after_of_some h]
      have haccepted := answers_accepted actor h
      by_cases hm : m.action = some .connect
      · have hleads : s.state.leadsToCall e = true := by simp [leadsToCall, h, hm]
        rw [if_pos hm] at haccepted
        obtain ⟨hnested, hend⟩ := ihNested (s.moved m)
        -- the event and the call inside the call
        have hcall : Answers 0 s (e :: (nested.heard (s.state.after e)).1)
            (asActs actor (s.moveDeeds e m) ++ (connect actor nested (s.moved m)).2.1)
            (connect actor nested (s.moved m)).1 := by
          rw [hstate] at hnested
          have := (haccepted.append hnested).then_quiet
            (answers_connectDeeds actor _ (play actor nested (s.moved m)).2.2)
          simpa [connect] using this
        rw [hstate] at hend
        rcases hr : (connect actor nested (s.moved m)).2.2 with result | _
        · have hreturned : (nested.heard (s.state.after e)).2 = true := by
            have : (play actor nested (s.moved m)).2.2 ≠ .died := by
              intro hd
              have hr' : (play actor nested (s.moved m)).2.2 = .returned result := hr
              rw [hr'] at hd
              cases hd
            simpa using mt hend.mpr this
          obtain ⟨hrest, hlast⟩ := ihRest (connect actor nested (s.moved m)).1
          have hafter : (connect actor nested (s.moved m)).1.state =
              (nested.heard (s.state.after e)).1.foldl after (s.state.after e) := hcall.state
          rw [hafter] at hrest hlast
          rw [play_started_of_returned h hm hr, Reply.heard_of_returned hleads hreturned]
          exact ⟨hcall.append hrest, hlast⟩
        · have hdied : (nested.heard (s.state.after e)).2 = false := hend.mp hr
          rw [play_started_of_died h hm hr, Reply.heard_of_died hleads hdied]
          exact ⟨hcall, by simp⟩
      · have hleads : s.state.leadsToCall e = false := by simp [leadsToCall, h, hm]
        rw [if_neg hm, List.append_nil] at haccepted
        obtain ⟨hrest, hend⟩ := ihRest (s.moved m)
        rw [hstate] at hrest hend
        rw [play_moved h hm, Reply.heard_of_not_leadsToCall hleads]
        exact ⟨haccepted.append hrest, hend⟩

end Supervisor

end LinkWarden
